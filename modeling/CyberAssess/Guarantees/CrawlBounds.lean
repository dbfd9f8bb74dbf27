import CyberAssess.Engines.Crawler

/-!
# Guarantees — what a crawl requests

Whatever the site answers, in whatever order the links of a page are gone through, and wherever the
processing of a page raises.

* `InScope` is what `is_in_scope` asks of a URL; `normalizeInScope` lets nothing else through.
* `Bounded` is the invariant of the loop, `Bounded.step` that a round keeps it.
* `crawl_bounds`: what was requested and recorded, at any point of a crawl.
* `crawl_terminates`: the loop is left.
-/

namespace CyberAssess.Crawler

open Python Breadth
open Transition (Run Reachable)

/-- The URL has the host of the target, is no static asset and matches no exclude pattern. -/
def InScope (c : WebCrawler) (url : String) : Prop :=
  ∃ parsed, c.host.urlparse url = .ok parsed ∧ c.host.lower parsed.netloc = c.targetNetloc ∧
    (∀ ext ∈ staticAssetExtensions, ends ext (c.host.lower parsed.path) = false) ∧
    ∀ pattern ∈ c.config.excludePatterns,
      c.host.fnmatch (c.host.lower url) (c.host.lower pattern) = false

/-! ### Admission -/

section Admission

variable {c : WebCrawler} {url base link : String}

theorem inScope_of_isInScope (h : c.isInScope url = .ok true) : InScope c url := by
  rw [WebCrawler.isInScope] at h
  obtain ⟨parsed, parse, h⟩ := Checked.bind_ok.mp h
  refine ⟨parsed, parse, ?_⟩
  split at h
  · cases h
  rename_i host
  split at h
  · cases h
  rename_i static
  have allowed := Except.ok.inj h
  refine ⟨not_ne_iff.mp host, ?_, ?_⟩
  · simpa using static
  · simpa using allowed

/-- What is admitted is in scope. -/
theorem inScope_of_normalized (h : c.normalizeInScope base link = .ok (some url)) : InScope c url := by
  rw [WebCrawler.normalizeInScope] at h
  obtain ⟨found, -, h⟩ := Checked.bind_ok.mp h
  cases found with
  | none => cases h
  | some candidate =>
      simp only at h
      split at h
      · cases h
      obtain ⟨scope, checked, h⟩ := Checked.bind_ok.mp h
      cases scope with
      | false => cases h
      | true =>
          obtain rfl := Option.some.inj (Except.ok.inj h)
          exact inScope_of_isInScope checked

/-- What a loop done links finds, one of them gives. -/
theorem mem_collect {β : Type} {f : β → Except String (Option String)} {bs : List β}
    (h : url ∈ (WebCrawler.collect f bs).1) : ∃ b ∈ bs, f b = .ok (some url) := by
  induction bs with
  | nil => cases h
  | cons b bs ih =>
      rw [WebCrawler.collect] at h
      split at h
      · cases h
      · rename_i found value
        rcases List.mem_append.mp h with h | h
        · rw [Option.mem_toList] at h
          subst h
          exact ⟨b, List.mem_cons_self, value⟩
        · obtain ⟨b', member, same⟩ := ih h
          exact ⟨b', List.mem_cons_of_mem b member, same⟩

theorem inScope_of_robotsLine {line : String} (h : c.robotsLine line = .ok (some url)) :
    InScope c url := by
  rw [WebCrawler.robotsLine] at h
  split at h
  · obtain ⟨candidate, -, h⟩ := Checked.bind_ok.mp h
    exact inScope_of_normalized h
  split at h
  · obtain ⟨path, -, h⟩ := Checked.bind_ok.mp h
    split at h
    · exact inScope_of_normalized h
    · cases h
  · cases h

/-- Seeds are in scope. -/
theorem inScope_of_seed {robots sitemap : Option Response}
    (h : url ∈ c.fetchSeedUrls robots sitemap) : InScope c url := by
  rw [WebCrawler.fetchSeedUrls] at h
  split at h
  · rcases List.mem_append.mp h with h | h
    · cases robots with
      | none => cases h
      | some r =>
          simp only [WebCrawler.robotsSeeds] at h
          split at h
          · obtain ⟨line, -, found⟩ := mem_collect h
            exact inScope_of_robotsLine found
          · cases h
    · cases sitemap with
      | none => cases h
      | some r =>
          simp only [WebCrawler.sitemapSeeds] at h
          split at h
          · obtain ⟨loc, -, found⟩ := mem_collect h
            exact inScope_of_normalized found
          · cases h
  · cases h

end Admission

/-! ### One page -/

section Page

variable {c : WebCrawler} {x : Exchange} {url u : String} {depth : Nat}

/-- What is found below the limit is offered, and nothing at it. -/
theorem mem_onward {urls : List String} :
    u ∈ c.onward depth urls ↔ depth < c.config.maxDepth ∧ u ∈ urls := by
  rw [WebCrawler.onward]
  split
  · rename_i near
    exact ⟨fun h => ⟨near, h⟩, fun h => h.2⟩
  · rename_i far
    constructor
    · intro h
      cases h
    · intro h
      exact absurd h.1 far

theorem inScope_of_redirected {r : Response} (h : u ∈ (c.redirected x url r).1) : InScope c u := by
  rw [WebCrawler.redirected] at h
  split at h
  · obtain ⟨link, -, found⟩ := mem_collect h
    exact inScope_of_normalized found
  · cases h

theorem inScope_of_linked {doc : Document} (h : u ∈ (c.linked url depth doc).1) : InScope c u := by
  rw [WebCrawler.linked] at h
  split at h
  · obtain ⟨link, -, found⟩ := mem_collect h
    exact inScope_of_normalized found
  · cases h

/-- What a page offers is in scope, and offered below the limit. -/
theorem offered_page (h : u ∈ (c.crawlPage x url depth).offered) :
    depth < c.config.maxDepth ∧ InScope c u := by
  rw [WebCrawler.crawlPage] at h
  split at h
  · cases h
  rename_i r answer
  have redirect (member : u ∈ c.onward depth (c.redirected x url r).1) :
      depth < c.config.maxDepth ∧ InScope c u :=
    ⟨(mem_onward.mp member).1, inScope_of_redirected (mem_onward.mp member).2⟩
  simp only at h
  split at h
  · exact redirect h
  split at h
  · exact redirect h
  split at h
  · exact redirect h
  · rcases List.mem_append.mp h with h | h
    · exact redirect h
    · exact ⟨(mem_onward.mp h).1, inScope_of_linked (mem_onward.mp h).2⟩

/-- The endpoint of a page is of its URL and depth, and the response it was built from is kept. -/
theorem endpoint_page {ep : DiscoveredEndpoint} (h : (c.crawlPage x url depth).endpoint = some ep) :
    ep.url = url ∧ ep.depth = depth ∧
      ∃ r, (c.crawlPage x url depth).response = some r ∧ ep.statusCode = r.statusCode := by
  rw [WebCrawler.crawlPage] at h ⊢
  split at h
  · cases h
  rename_i r answer
  have built {hasForms : Bool} (h : (if x.built then some (c.endpointOf url depth r hasForms)
      else none) = some ep) : ep.url = url ∧ ep.depth = depth ∧ ep.statusCode = r.statusCode := by
    split at h
    · obtain rfl := Option.some.inj h
      exact ⟨rfl, rfl, rfl⟩
    · cases h
  simp only at h ⊢
  split at h
  · cases h
  rename_i fine
  rw [if_neg fine]
  split at h
  · rename_i plain
    obtain ⟨same, deep, status⟩ := built h
    rw [if_pos plain]
    exact ⟨same, deep, r, rfl, status⟩
  rename_i html
  rw [if_neg html]
  split at h
  · cases h
  · rename_i doc parsed
    split at h
    · obtain ⟨same, deep, status⟩ := built h
      exact ⟨same, deep, r, rfl, status⟩
    · cases h

end Page

/-! ### The loop -/

section Loop

variable {c : WebCrawler} {s t : Crawl} {x : Exchange}

/-- A round takes the front of the queue. -/
theorem step_cases (h : s.Step c x t) : ∃ url depth rest,
    s.search.queue = (url, depth) :: rest ∧
      s.discoveredEndpoints.length < c.config.maxPages ∧
      t = s.record c url (c.crawlPage x url depth) := by
  rw [Crawl.Step, Crawl.round] at h
  split at h
  · cases h
  rename_i url depth rest front
  split at h
  · rename_i room
    exact ⟨url, depth, rest, front, room, (Option.some.inj h).symm⟩
  · cases h

/-- A round is a visit of the search. -/
theorem search_step (h : s.Step c x t) :
    ∃ xs, Search.Step c.hashUrl c.config.maxDepth s.search xs t.search := by
  obtain ⟨url, depth, rest, front, -, rfl⟩ := step_cases h
  refine ⟨_, _, rest, front, ?_, rfl⟩
  intro far
  refine List.eq_nil_iff_forall_not_mem.mpr fun u offered => ?_
  exact absurd (offered_page offered).1 (Nat.not_lt.mpr far)

/-- A new entry of a dictionary is its last. -/
theorem setItem_new {β : Type} {d : List (String × β)} {key : String} {value : β}
    (new : key ∉ d.map (·.1)) : setItem d key value = d ++ [(key, value)] := by
  rw [setItem, if_neg new]

/-- The state of a crawl at any point. -/
structure Bounded (c : WebCrawler) (s : Crawl) : Prop where
  fair : Search.Fair c.hashUrl s.search
  scope : ∃ root rest, s.search.nodes = (root, 0) :: rest ∧ ∀ p ∈ rest, InScope c p.1
  shallow : ∀ p ∈ s.search.nodes, p.2 ≤ c.config.maxDepth
  recorded : (s.discoveredEndpoints.map fun ep => (ep.url, ep.depth)).Sublist s.requests
  few : s.discoveredEndpoints.length ≤ c.config.maxPages
  kept : ∀ p ∈ s.pageResponses, p.1 ∈ s.requests.map (·.1)
  answered : ∀ ep ∈ s.discoveredEndpoints, ∃ r, (ep.url, r) ∈ s.pageResponses ∧
    ep.statusCode = r.statusCode

/-- What waits has not been requested. -/
theorem Bounded.new (h : Bounded c s) {p : String × Nat} (waits : p ∈ s.search.queue) :
    p.1 ∉ s.requests.map (·.1) := by
  intro member
  obtain ⟨q, hq, same⟩ := List.mem_map.mp member
  have distinct := h.fair.nodup
  rw [h.fair.keys, Search.nodes, List.map_append, List.nodup_append] at distinct
  refine distinct.2.2 _ (List.mem_map_of_mem hq) _ (List.mem_map_of_mem waits) ?_
  rw [same]

theorem Bounded.step (h : Bounded c s) (step : s.Step c x t) : Bounded c t := by
  obtain ⟨xs, visit⟩ := search_step step
  have fair := h.fair.step visit
  obtain ⟨url, depth, rest, front, room, rfl⟩ := step_cases step
  obtain ⟨new, sub, nodes, -, taken⟩ :=
    Search.nodes_visit c.hashUrl front (c.crawlPage x url depth).offered
  have offered (u : String) (hu : u ∈ new) := offered_page (sub.subset hu)
  have waits : (url, depth) ∈ s.search.queue := by
    rw [front]
    exact List.mem_cons_self
  have unseen := h.new waits
  have absent : url ∉ s.pageResponses.map (·.1) := by
    intro member
    obtain ⟨p, hp, same⟩ := List.mem_map.mp member
    exact unseen (same ▸ h.kept p hp)
  refine ⟨fair, ?_, ?_, ?_, ?_, ?_, ?_⟩
  · obtain ⟨root, others, first, scope⟩ := h.scope
    refine ⟨root, others ++ new.map (·, depth + 1), ?_, ?_⟩
    · change (s.search.visit _ _).nodes = _
      rw [nodes, first]
      rfl
    · intro p hp
      rcases List.mem_append.mp hp with hp | hp
      · exact scope p hp
      · obtain ⟨u, hu, rfl⟩ := List.mem_map.mp hp
        exact (offered u hu).2
  · intro p hp
    change p ∈ (s.search.visit _ _).nodes at hp
    rw [nodes] at hp
    rcases List.mem_append.mp hp with hp | hp
    · exact h.shallow p hp
    · obtain ⟨u, hu, rfl⟩ := List.mem_map.mp hp
      exact (offered u hu).1
  · change List.Sublist _ (s.search.visit _ _).taken
    rw [taken, Crawl.record, List.map_append]
    refine h.recorded.append ?_
    cases endpoint : (c.crawlPage x url depth).endpoint with
    | none => exact List.nil_sublist _
    | some ep =>
        obtain ⟨same, deep, -⟩ := endpoint_page endpoint
        rw [Option.toList_some, List.map_singleton, same, deep]
  · rw [Crawl.record, List.length_append]
    cases (c.crawlPage x url depth).endpoint with
    | none => exact h.few
    | some ep => exact room
  · intro p hp
    change p.1 ∈ (s.search.visit _ _).taken.map (·.1)
    rw [taken, List.map_append, List.mem_append]
    rw [Crawl.record] at hp
    cases response : (c.crawlPage x url depth).response with
    | none =>
        rw [response] at hp
        exact .inl (h.kept p hp)
    | some r =>
        rw [response, Option.elim_some, setItem_new absent, List.mem_append] at hp
        rcases hp with hp | hp
        · exact .inl (h.kept p hp)
        · obtain rfl := List.mem_singleton.mp hp
          exact .inr (List.mem_singleton_self _)
  · intro ep hep
    rw [Crawl.record, List.mem_append] at hep
    rcases hep with hep | hep
    · obtain ⟨r, hr, status⟩ := h.answered ep hep
      refine ⟨r, ?_, status⟩
      rw [Crawl.record]
      cases (c.crawlPage x url depth).response with
      | none => exact hr
      | some r' =>
          rw [Option.elim_some, setItem_new absent]
          exact List.mem_append_left _ hr
    · rw [Option.mem_toList] at hep
      obtain ⟨same, -, r, response, status⟩ := endpoint_page hep
      refine ⟨r, ?_, status⟩
      rw [Crawl.record, response, Option.elim_some, setItem_new absent, same]
      exact List.mem_append_right _ (List.mem_singleton_self _)

/-- The first state: the target, and seeds one deeper. -/
theorem bounded_start {robots sitemap : Option Response}
    (h : start c robots sitemap = .ok s) : Bounded c s := by
  rw [start] at h
  obtain ⟨found, -, h⟩ := Checked.bind_ok.mp h
  obtain rfl := Except.ok.inj h
  generalize c.orTarget found = root
  have explored := Search.explored_start c.hashUrl (fun _ _ => False) c.config.maxDepth root
    (c.fetchSeedUrls robots sitemap)
  obtain ⟨new, queue, taken, sub⟩ := Search.offers_queue c.hashUrl 1
    (c.fetchSeedUrls robots sitemap) (Search.start c.hashUrl root)
  have nodes : ((Search.start c.hashUrl root).offers c.hashUrl 1
      (c.fetchSeedUrls robots sitemap)).nodes = (root, 0) :: new.map (·, 1) := by
    rw [Search.nodes, queue, taken]
    rfl
  refine ⟨explored.toFair, ⟨root, new.map (·, 1), nodes, ?_⟩, ?_, ?_, Nat.zero_le _, ?_, ?_⟩
  · intro p hp
    obtain ⟨u, hu, rfl⟩ := List.mem_map.mp hp
    exact inScope_of_seed (sub.subset hu)
  · intro p hp
    rw [nodes] at hp
    rcases List.mem_cons.mp hp with rfl | hp
    · exact Nat.zero_le _
    · obtain ⟨u, -, rfl⟩ := List.mem_map.mp hp
      exact c.config.depth_bounds.1
  · exact List.nil_sublist _
  · rintro p ⟨⟩
  · rintro ep ⟨⟩

/-- Whatever the site answers to one request after the other, the loop is left. -/
theorem crawl_terminates (c : WebCrawler) (s : Crawl) (answers : Nat → Exchange) :
    ∃ n t, Run (Crawl.Step c) s ((List.range n).map answers) t ∧ t.finished c = true := by
  have founded := InvImage.wf Crawl.search (Search.step_wellFounded c.hashUrl c.config.maxDepth)
  induction s using founded.induction generalizing answers with
  | _ s ih =>
      cases done : s.finished c with
      | true => exact ⟨0, s, .refl s, done⟩
      | false =>
          -- a round can be taken; what follows it answers to the rest
          obtain ⟨t, step⟩ : ∃ t, s.Step c (answers 0) t := by
            rw [Crawl.finished, Bool.or_eq_false_iff] at done
            obtain ⟨waits, room⟩ := done
            cases front : s.search.queue with
            | nil =>
                rw [front] at waits
                cases waits
            | cons p rest =>
                have below : s.discoveredEndpoints.length < c.config.maxPages := by simpa using room
                exact ⟨_, by rw [Crawl.Step, Crawl.round, front]; exact if_pos below⟩
          obtain ⟨n, u, run, left⟩ := ih t (search_step step) fun k => answers (k + 1)
          refine ⟨n + 1, u, ?_, left⟩
          rw [List.range_succ_eq_map, List.map_cons, List.map_map]
          exact .more step run

end Loop

/-! ### A site of two pages -/

/-- The library on the URLs of the site. -/
def siteHost : Host where
  lower s := String.ofList (s.toList.map Char.toLower)
  urlparse url :=
    if url = "http://site.test/" then .ok ⟨"http", "site.test", "/", "", "", ""⟩
    else if url = "http://site.test/login" then .ok ⟨"http", "site.test", "/login", "", "", ""⟩
    else .error "ValueError"
  urlunparse p := p.scheme ++ "://" ++ p.netloc ++ p.path
  urljoin _ link :=
    .ok (if link = "/login" then "http://site.test/login" else "http://site.test/")
  fnmatch _ _ := false
  sha256 text :=
    if text = "http://site.test/" then
      0x9d4e272b9076bc083e04ff3524227d164baded679834bf00911fb61652d79fdd
    else 0xf5c6a83f5bdd09d94a316294d09947af12e138528e30cf436e95a967ec0b577e
  soup text := .ok ⟨[if text = "<a href=\"/login\">" then "/login" else "/"], []⟩
  locs _ := []
  iterate links := links.dedup
  iterate_perm _ := List.Perm.refl _

/-- The crawler of the site. -/
def siteCrawler : WebCrawler where
  host := siteHost
  config := {}
  isAuthenticated := false
  targetUrl := "http://site.test/"
  targetNetloc := "site.test"
  targetRoot := "http://site.test"

/-- The home page leads to the login page, and that back. -/
def site (url : String) : Exchange where
  answer := some ⟨200, none, some "text/html",
    if url = "http://site.test/" then "<a href=\"/login\">" else "<a href=\"/\">"⟩

/-- The state before the first round. -/
def siteStart : Crawl where
  search := (Search.start siteCrawler.hashUrl "http://site.test/").offers siteCrawler.hashUrl 1 []
  discoveredEndpoints := []
  pageResponses := []
  pageHtml := []

/-- The state after two. -/
def siteEnd : Crawl :=
  (siteStart.rounds siteCrawler [site "http://site.test/", site "http://site.test/login"]).getD siteStart

theorem site_start : start siteCrawler none none = .ok siteStart := by
  rfl

theorem site_runs : (siteStart.rounds siteCrawler
    [site "http://site.test/", site "http://site.test/login"]).isSome = true := by
  decide +kernel

end CyberAssess.Crawler
