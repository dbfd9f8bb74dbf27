import CyberAssess.Support.Breadth
import CyberAssess.Support.Checked
import CyberAssess.Support.HexDigest
import CyberAssess.Support.Text

/-!
# Engines — the web crawler

`WebCrawler` of `engines/web_dast/crawler.py`: a breadth-first search over the pages of one site, from
the target and from what `robots.txt` and `sitemap.xml` name.

* `CrawlerConfig` is the configuration within its bounds, `Host` what the crawler uses of the standard
  library and of the HTML parser, `Exchange` what the site and the callbacks do with one request.
* `normalizeUrl`, `isInScope` and `fetchSeedUrls` are the methods of these names; `normalizeInScope` is the
  sequence of the first two that every link goes through.
* `crawlPage` is one round of the loop: what is offered to the queue and what is recorded.
* `Crawl` is the state of the loop on the search of `Support/Breadth`; `Crawl.Step` is one round,
  `start` what precedes the first.

`[about ours]`: an exception is an error text, whatever its class; the search also keeps the requests
in order. The log is left out but for whether writing a warning raises.
-/

namespace CyberAssess.Crawler

open Python Breadth

/-! ### What the crawler is given -/

/-- `CrawlerConfig`. -/
structure CrawlerConfig where
  maxDepth : Nat := 3
  maxPages : Nat := 50
  excludePatterns : List String := ["*logout*", "*signout*", "*delete*", "*destroy*", "*purge*"]
  followRedirects : Bool := true
  parseSitemap : Bool := true
  depth_bounds : 1 ≤ maxDepth ∧ maxDepth ≤ 5 := by decide
  page_bounds : 1 ≤ maxPages ∧ maxPages ≤ 200 := by decide

/-- `urlparse(url)`. -/
structure ParseResult where
  scheme : String
  netloc : String
  path : String
  params : String
  query : String
  fragment : String

/-- A parsed page: the `href` of every `a` that has one, and the `action` of every `form`. -/
structure Document where
  anchors : List String
  forms : List (Option String)

/-- The links of a page: where its `a` lead, and its forms that say where. -/
def Document.links (doc : Document) : List String :=
  doc.anchors ++ doc.forms.filterMap fun action => action.filter (· ≠ "")

/-- What the crawler uses of the standard library and of the HTML parser. -/
structure Host where
  lower : String → String
  urlparse : String → Except String ParseResult
  urlunparse : ParseResult → String
  urljoin : String → String → Except String String
  fnmatch : String → String → Bool
  sha256 : String → Digest
  /-- `BeautifulSoup(text, "html.parser")`. -/
  soup : String → Except String Document
  /-- What `<loc>(.*?)</loc>` finds, whatever the case. -/
  locs : String → List String
  /-- The order a set of links is gone through. -/
  iterate : List String → List String
  iterate_perm : ∀ links : List String, (iterate links).Perm links.dedup

/-- `httpx.Response`. -/
structure Response where
  statusCode : Nat
  location : Option String
  contentType : Option String
  text : String

/-- What comes of one request: the response unless it raises, and whether a warning is written and
the endpoint built without an exception. -/
structure Exchange where
  answer : Option Response
  logged : Bool := true
  built : Bool := true

/-- `DiscoveredEndpoint`, as far as the crawler sets it. -/
structure DiscoveredEndpoint where
  url : String
  method : String
  depth : Nat
  statusCode : Nat
  contentType : Option String
  isAuthenticated : Bool
  hasForms : Bool

/-- The crawler once it is constructed. -/
structure WebCrawler where
  host : Host
  config : CrawlerConfig
  isAuthenticated : Bool
  targetUrl : String
  targetNetloc : String
  targetRoot : String

/-- `WebCrawler.__init__`. -/
def construct (host : Host) (config : CrawlerConfig) (isAuthenticated : Bool) (targetUrl : String) :
    Except String WebCrawler := do
  let parsed ← host.urlparse (strip targetUrl)
  .ok
    { host := host
      config := config
      isAuthenticated := isAuthenticated
      targetUrl := strip targetUrl
      targetNetloc := host.lower parsed.netloc
      targetRoot := host.lower parsed.scheme ++ "://" ++ host.lower parsed.netloc }

/-- `text.startswith(start)`. -/
def starts (start text : String) : Bool := start.toList.isPrefixOf text.toList

/-- `text.endswith(tail)`. -/
def ends (tail text : String) : Bool := tail.toList.isSuffixOf text.toList

/-- `needle in text`. -/
def occurs (needle text : String) : Bool := text.toList.tails.any needle.toList.isPrefixOf

/-- `STATIC_ASSET_EXTENSIONS`. -/
def staticAssetExtensions : List String :=
  [".js", ".css", ".png", ".jpg", ".jpeg", ".gif", ".svg", ".ico", ".webp", ".woff", ".woff2", ".ttf",
    ".eot", ".otf", ".mp4", ".mp3", ".webm", ".ogg", ".wav", ".pdf", ".zip", ".tar", ".gz", ".map"]

namespace WebCrawler

variable (c : WebCrawler)

/-! ### URLs -/

/-- `_hash_url`. -/
def hashUrl (url : String) : Digest := c.host.sha256 (c.host.lower url)

/-- `path`, with `/` for an empty one and without a slash at its end. -/
def normalizePath (path : String) : String :=
  if path = "" then "/"
  else if path ≠ "/" && ends "/" path then String.ofList path.toList.dropLast
  else path

/-- `normalize_url`. -/
def normalizeUrl (baseUrl link : String) : Except String (Option String) := do
  if link = "" || starts "#" link || starts "javascript:" link || starts "mailto:" link ||
      starts "tel:" link then
    return none
  let resolved ← c.host.urljoin baseUrl (strip link)
  let parsed ← c.host.urlparse resolved
  if c.host.lower parsed.scheme ∉ ["http", "https"] then
    return none
  return some (c.host.urlunparse
    { scheme := c.host.lower parsed.scheme
      netloc := c.host.lower parsed.netloc
      path := normalizePath parsed.path
      params := parsed.params
      query := parsed.query
      fragment := "" })

/-- `is_in_scope`. -/
def isInScope (candidateUrl : String) : Except String Bool := do
  let parsed ← c.host.urlparse candidateUrl
  if c.host.lower parsed.netloc ≠ c.targetNetloc then
    return false
  if staticAssetExtensions.any fun ext => ends ext (c.host.lower parsed.path) then
    return false
  return !c.config.excludePatterns.any fun pattern =>
    c.host.fnmatch (c.host.lower candidateUrl) (c.host.lower pattern)

/-- A link, normalized, if it is in scope. -/
def normalizeInScope (baseUrl link : String) : Except String (Option String) := do
  match ← c.normalizeUrl baseUrl link with
  | none => return none
  | some url =>
      if url = "" then return none
      return if ← c.isInScope url then some url else none

/-- What a loop over links comes to: those that are admitted up to an exception, and whether there was
none. -/
def collect {β : Type} (f : β → Except String (Option String)) : List β → List String × Bool
  | [] => ([], true)
  | b :: bs =>
      match f b with
      | .error _ => ([], false)
      | .ok url => (url.toList ++ (collect f bs).1, (collect f bs).2)

/-! ### Seeds -/

/-- `line.split(":", 1)[1].strip()`. -/
def afterColon (line : String) : Except String String :=
  match line.toList.dropWhile (· ≠ ':') with
  | [] => .error "IndexError"
  | _ :: rest => .ok (String.ofList (stripChars rest))

/-- A line of `robots.txt`. -/
def robotsLine (line : String) : Except String (Option String) := do
  let line := strip line
  if starts "sitemap:" (c.host.lower line) then
    c.normalizeInScope c.targetRoot (← afterColon line)
  else if starts "disallow:" (c.host.lower line) || starts "allow:" (c.host.lower line) then
    let path ← afterColon line
    if path ≠ "" && path ≠ "/" then c.normalizeInScope c.targetRoot path else return none
  else return none

/-- What `/robots.txt` names. -/
def robotsSeeds (robots : Option Response) : List String :=
  match robots with
  | none => []
  | some r =>
      if r.statusCode = 200 then
        (collect c.robotsLine ((splitLines r.text.toList).map String.ofList)).1
      else []

/-- What `/sitemap.xml` names. -/
def sitemapSeeds (sitemap : Option Response) : List String :=
  match sitemap with
  | none => []
  | some r =>
      if r.statusCode = 200 && (occurs "<urlset" r.text || occurs "<sitemapindex" r.text) then
        (collect (fun loc => c.normalizeInScope c.targetRoot (strip loc)) (c.host.locs r.text)).1
      else []

/-- `fetch_seed_urls`, by what the two requests come to. -/
def fetchSeedUrls (robots sitemap : Option Response) : List String :=
  if c.config.parseSitemap then c.robotsSeeds robots ++ c.sitemapSeeds sitemap else []

/-! ### One page -/

/-- The response is a redirect that is followed. -/
def redirecting (r : Response) : Bool :=
  c.config.followRedirects && 300 ≤ r.statusCode && r.statusCode < 400

/-- `"text/html" in content_type.lower()`. -/
def isHtml (r : Response) : Bool := occurs "text/html" (c.host.lower (r.contentType.getD ""))

/-- `extracted_links`, as the set is gone through. -/
def extractedLinks (doc : Document) : List String := c.host.iterate doc.links

/-- What is found at a depth is offered only below the limit. -/
def onward (depth : Nat) (urls : List String) : List String :=
  if depth < c.config.maxDepth then urls else []

/-- What one round of the loop leaves. -/
structure Page where
  offered : List String := []
  response : Option Response := none
  html : Option String := none
  endpoint : Option DiscoveredEndpoint := none

/-- Where a redirect leads, and whether it was dealt with without an exception. -/
def redirected (x : Exchange) (url : String) (r : Response) : List String × Bool :=
  if c.redirecting r then
    let found := collect (c.normalizeInScope url) [r.location.getD ""]
    (found.1, found.2 && (!found.1.isEmpty || r.location.getD "" = "" || x.logged))
  else ([], true)

/-- The links of a page, unless it is at the limit. -/
def linked (url : String) (depth : Nat) (doc : Document) : List String × Bool :=
  if depth < c.config.maxDepth then collect (c.normalizeInScope url) (c.extractedLinks doc) else ([], true)

/-- The endpoint of a page. -/
def endpointOf (url : String) (depth : Nat) (r : Response) (hasForms : Bool) : DiscoveredEndpoint where
  url := url
  method := "GET"
  depth := depth
  statusCode := r.statusCode
  contentType := r.contentType.filter (· ≠ "")
  isAuthenticated := c.isAuthenticated
  hasForms := hasForms

/-- The body of the loop's `try`, after the request. -/
def crawlPage (x : Exchange) (url : String) (depth : Nat) : Page :=
  match x.answer with
  | none => {}
  | some r =>
      let redirect := c.redirected x url r
      let offered := c.onward depth redirect.1
      let endpoint (hasForms : Bool) :=
        if x.built then some (c.endpointOf url depth r hasForms) else none
      if !redirect.2 then { offered := offered }
      else if !c.isHtml r then
        { offered := offered, response := some r, endpoint := endpoint false }
      else
        match c.host.soup r.text with
        | .error _ => { offered := offered, response := some r, html := some r.text }
        | .ok doc =>
            let links := c.linked url depth doc
            { offered := offered ++ c.onward depth links.1
              response := some r
              html := some r.text
              endpoint := if links.2 then endpoint !doc.forms.isEmpty else none }

end WebCrawler

/-! ### The loop -/

/-- `d[key] = value`, of a dictionary. -/
def setItem {β : Type} (d : List (String × β)) (key : String) (value : β) : List (String × β) :=
  if key ∈ d.map (·.1) then d.map fun p => if p.1 = key then (key, value) else p
  else d ++ [(key, value)]

/-- The state of the loop. -/
structure Crawl where
  search : Search String Digest
  discoveredEndpoints : List DiscoveredEndpoint
  pageResponses : List (String × Response)
  pageHtml : List (String × String)

namespace Crawl

variable (c : WebCrawler) (s : Crawl)

/-- The requests of the loop, with their depths. -/
def requests : List (String × Nat) := s.search.taken

/-- The loop is left. -/
def finished : Bool := s.search.queue.isEmpty || c.config.maxPages ≤ s.discoveredEndpoints.length

/-- What is kept of a page. -/
def record (url : String) (page : WebCrawler.Page) : Crawl where
  search := s.search.visit c.hashUrl page.offered
  discoveredEndpoints := s.discoveredEndpoints ++ page.endpoint.toList
  pageResponses := page.response.elim s.pageResponses (setItem s.pageResponses url)
  pageHtml := page.html.elim s.pageHtml (setItem s.pageHtml url)

/-- One round of the loop. -/
def round (x : Exchange) : Option Crawl :=
  match s.search.queue with
  | [] => none
  | (url, depth) :: _ =>
      if s.discoveredEndpoints.length < c.config.maxPages then
        some (s.record c url (c.crawlPage x url depth))
      else none

/-- A round, labelled with what the site does. -/
def Step (x : Exchange) (t : Crawl) : Prop := s.round c x = some t

/-- The state after rounds, if each can be taken. -/
def rounds (c : WebCrawler) (s : Crawl) : List Exchange → Option Crawl
  | [] => some s
  | x :: xs => (s.round c x).bind fun t => t.rounds c xs

theorem run_of_rounds {c : WebCrawler} {xs : List Exchange} :
    ∀ {s t : Crawl}, s.rounds c xs = some t → Transition.Run (Step c) s xs t := by
  induction xs with
  | nil =>
      intro s t h
      obtain rfl := Option.some.inj h
      exact .refl s
  | cons x xs ih =>
      intro s t h
      obtain ⟨u, first, rest⟩ := Option.bind_eq_some_iff.mp h
      exact .more first (ih rest)

end Crawl

/-- `self.normalize_url(…) or self.target_url`. -/
def WebCrawler.orTarget (c : WebCrawler) (normalized : Option String) : String :=
  match normalized with
  | none => c.targetUrl
  | some url => if url = "" then c.targetUrl else url

/-- `crawl`, up to the first round: the target, and the seeds beside its links. -/
def start (c : WebCrawler) (robots sitemap : Option Response) : Except String Crawl := do
  let root := c.orTarget (← c.normalizeUrl c.targetRoot c.targetUrl)
  .ok
    { search := (Search.start c.hashUrl root).offers c.hashUrl 1 (c.fetchSeedUrls robots sitemap)
      discoveredEndpoints := []
      pageResponses := []
      pageHtml := [] }

end CyberAssess.Crawler
