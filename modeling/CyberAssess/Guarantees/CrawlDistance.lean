import CyberAssess.Guarantees.CrawlBounds

/-!
# Guarantees — a crawl finds what there is to find

On a site whose answers depend on the URL alone, and whose pages are processed without an exception.

* `Links` is the graph of the site, `Root` where a crawl starts, `Calm` says that nothing raises.
* `mem_offered`: a page below the limit offers the pages it links to.
* `crawl_complete`: requests are made at the least depth, and when the queue is empty to all pages
  within the limit.
-/

namespace CyberAssess.Crawler

open Python Breadth
open Breadth (Arrives)
open Transition (Run)

/-! ### The graph of a site -/

/-- The page leads to the URL: by the redirect it answers with, or by one of its links. -/
def Links (c : WebCrawler) (site : String → Exchange) (url u : String) : Prop :=
  ∃ r, (site url).answer = some r ∧
    (c.redirecting r = true ∧ c.normalizeInScope url (r.location.getD "") = .ok (some u) ∨
      c.isHtml r = true ∧ ∃ doc, c.host.soup r.text = .ok doc ∧
        ∃ link ∈ doc.links, c.normalizeInScope url link = .ok (some u))

/-- Where a crawl starts: at the target, and one deeper at the seeds. -/
def Root (c : WebCrawler) (robots sitemap : Option Response) (u : String) (depth : Nat) : Prop :=
  (∃ normalized, c.normalizeUrl c.targetRoot c.targetUrl = .ok normalized ∧
      u = c.orTarget normalized) ∧ depth = 0 ∨
    u ∈ c.fetchSeedUrls robots sitemap ∧ depth = 1

/-- A loop over links passes them without an exception. -/
def Passes (c : WebCrawler) (url : String) (links : List String) : Prop :=
  ∀ link ∈ links, ∃ found, c.normalizeInScope url link = .ok found

/-- The page is processed without an exception. -/
def Calm (c : WebCrawler) (x : Exchange) (url : String) : Prop :=
  ∀ r, x.answer = some r → x.logged = true ∧ Passes c url [r.location.getD ""] ∧
    (c.isHtml r = true → ∃ doc, c.host.soup r.text = .ok doc ∧ Passes c url doc.links)

section Page

variable {c : WebCrawler} {url u : String} {depth : Nat}

/-- Without an exception a loop finds all that is admitted. -/
theorem collect_passes {links : List String} (h : Passes c url links) :
    (WebCrawler.collect (c.normalizeInScope url) links).2 = true ∧
      ∀ u, u ∈ (WebCrawler.collect (c.normalizeInScope url) links).1 ↔
        ∃ link ∈ links, c.normalizeInScope url link = .ok (some u) := by
  refine ⟨?_, fun u => ⟨mem_collect, ?_⟩⟩
  · induction links with
    | nil => rfl
    | cons link links ih =>
        obtain ⟨found, admitted⟩ := h link List.mem_cons_self
        rw [WebCrawler.collect, admitted]
        exact ih fun l hl => h l (List.mem_cons_of_mem link hl)
  · rintro ⟨link, member, admitted⟩
    induction links with
    | nil => cases member
    | cons first links ih =>
        obtain ⟨found, value⟩ := h first List.mem_cons_self
        rw [WebCrawler.collect, value]
        rcases List.mem_cons.mp member with rfl | member
        · obtain rfl := Except.ok.inj (value.symm.trans admitted)
          exact List.mem_append_left _ (List.mem_singleton_self u)
        · exact List.mem_append_right _
            (ih (fun l hl => h l (List.mem_cons_of_mem first hl)) member)

/-- A redirect is dealt with. -/
theorem redirected_calm {x : Exchange} {r : Response} (logged : x.logged = true)
    (h : Passes c url [r.location.getD ""]) : (c.redirected x url r).2 = true ∧
      ∀ u, u ∈ (c.redirected x url r).1 ↔
        c.redirecting r = true ∧ c.normalizeInScope url (r.location.getD "") = .ok (some u) := by
  obtain ⟨fine, found⟩ := collect_passes h
  rw [WebCrawler.redirected]
  split
  · rename_i redirecting
    refine ⟨by simp [fine, logged], fun u => ?_⟩
    simp only [found, List.mem_singleton, exists_eq_left, redirecting, true_and]
  · rename_i plain
    exact ⟨rfl, fun u => by simp [plain]⟩

/-- The links of a page below the limit. -/
theorem linked_calm {doc : Document} (near : depth < c.config.maxDepth)
    (h : Passes c url doc.links) :
    ∀ u, u ∈ (c.linked url depth doc).1 ↔
      ∃ link ∈ doc.links, c.normalizeInScope url link = .ok (some u) := by
  have members (link : String) : link ∈ c.extractedLinks doc ↔ link ∈ doc.links :=
    (c.host.iterate_perm doc.links).mem_iff.trans List.mem_dedup
  have passes : Passes c url (c.extractedLinks doc) := fun link hl => h link ((members link).mp hl)
  intro u
  rw [WebCrawler.linked, if_pos near, (collect_passes passes).2]
  simp only [members]

/-- A page below the limit offers the pages it links to. -/
theorem mem_offered {site : String → Exchange} (calm : Calm c (site url) url)
    (near : depth < c.config.maxDepth) :
    u ∈ (c.crawlPage (site url) url depth).offered ↔ Links c site url u := by
  cases answer : (site url).answer with
  | none =>
      simp [WebCrawler.crawlPage, answer, Links]
  | some r =>
      obtain ⟨logged, location, html⟩ := calm r answer
      obtain ⟨fine, redirect⟩ := redirected_calm logged location
      have links : Links c site url u ↔
          (c.redirecting r = true ∧ c.normalizeInScope url (r.location.getD "") = .ok (some u) ∨
            c.isHtml r = true ∧ ∃ doc, c.host.soup r.text = .ok doc ∧
              ∃ link ∈ doc.links, c.normalizeInScope url link = .ok (some u)) := by
        simp [Links, answer]
      rw [links, WebCrawler.crawlPage, answer]
      simp only [fine, Bool.not_true, Bool.false_eq_true, if_false]
      cases kind : c.isHtml r with
      | false =>
          simp [mem_onward, near, redirect]
      | true =>
          obtain ⟨doc, parsed, passes⟩ := html kind
          have found := linked_calm near passes u
          simp [parsed, mem_onward, near, redirect, found]

end Page

/-! ### The crawl -/

section Crawl

variable {c : WebCrawler} {site : String → Exchange} {robots sitemap : Option Response} {s t : Crawl}

/-- A round on the site, labelled with the URL that is requested. -/
def Visit (c : WebCrawler) (site : String → Exchange) (s : Crawl) (url : String) (t : Crawl) : Prop :=
  (∃ depth rest, s.search.queue = (url, depth) :: rest) ∧ s.Step c (site url) t

/-- The search of a crawl on the site explores its graph. -/
abbrev OnSite (c : WebCrawler) (site : String → Exchange) (robots sitemap : Option Response)
    (s : Crawl) : Prop :=
  Search.Explored c.hashUrl (Links c site) (Root c robots sitemap) c.config.maxDepth s.search

/-- The pages within the limit. -/
abbrev Within (c : WebCrawler) (site : String → Exchange) (robots sitemap : Option Response) :
    String → Nat → Prop :=
  Arrives (Links c site) (Root c robots sitemap) c.config.maxDepth

theorem onSite_start (h : start c robots sitemap = .ok s) : OnSite c site robots sitemap s := by
  rw [start] at h
  obtain ⟨normalized, found, h⟩ := Checked.bind_ok.mp h
  obtain rfl := Except.ok.inj h
  have roots : Root c robots sitemap = fun u depth =>
      u = c.orTarget normalized ∧ depth = 0 ∨ u ∈ c.fetchSeedUrls robots sitemap ∧ depth = 1 := by
    funext u depth
    simp [Root, found]
  rw [OnSite, roots]
  exact Search.explored_start c.hashUrl (Links c site) c.config.maxDepth _ _

theorem OnSite.visit {url : String} (h : OnSite c site robots sitemap s)
    (calm : ∀ url n, Within c site robots sitemap url n → Calm c (site url) url)
    (visit : Visit c site s url t) : OnSite c site robots sitemap t := by
  obtain ⟨⟨depth', rest', same⟩, step⟩ := visit
  obtain ⟨url', depth, rest, front, -, rfl⟩ := step_cases step
  obtain ⟨rfl, rfl⟩ : url' = url ∧ depth = depth' := by
    rw [front] at same
    exact Prod.mk.inj (List.cons.inj same).1
  -- the page that is requested waits in the queue, so it is within the limit and calm
  have waits : (url', depth) ∈ s.search.nodes := by
    refine List.mem_append_right _ ?_
    rw [front]
    exact List.mem_cons_self
  have quiet := calm url' depth (h.arrived _ waits)
  refine Search.Explored.step h ⟨(url', depth), rest, front, ?_, ?_, rfl⟩
  · intro far
    refine List.eq_nil_iff_forall_not_mem.mpr fun u offered => ?_
    exact absurd (offered_page offered).1 (Nat.not_lt.mpr far)
  · exact fun near u => mem_offered quiet near

/-- On a site where nothing raises, and no two pages within the limit share their spelling but for
letter case: whatever is requested is a page within the limit, at the least number of hops it can be
reached in, and a crawl that is not cut off by the number of pages requests all of them. -/
theorem crawl_complete {urls : List String} (h : start c robots sitemap = .ok s)
    (run : Run (Visit c site) s urls t)
    (calm : ∀ url n, Within c site robots sitemap url n → Calm c (site url) url)
    (apart : ∀ u n v m, Within c site robots sitemap u n → Within c site robots sitemap v m →
      c.hashUrl u = c.hashUrl v → u = v) :
    (∀ u d, (u, d) ∈ t.requests → Within c site robots sitemap u d ∧
      ∀ n, Within c site robots sitemap u n → d ≤ n) ∧
    (t.finished c = true → t.discoveredEndpoints.length < c.config.maxPages →
      ∀ u n, Within c site robots sitemap u n → ∃ d ≤ n, (u, d) ∈ t.requests) := by
  have explored : OnSite c site robots sitemap t :=
    run.invariant (fun _ _ _ inv visit => inv.visit calm visit) (onSite_start h)
  refine ⟨?_, ?_⟩
  · intro u d member
    have node : (u, d) ∈ t.search.nodes := List.mem_append_left _ member
    exact ⟨explored.arrived _ node, fun n way => explored.shortest apart node way⟩
  · intro finished room u n way
    refine explored.complete apart ?_ way
    rw [Crawl.finished, Bool.or_eq_true] at finished
    rcases finished with empty | full
    · exact List.isEmpty_iff.mp empty
    · -- the crawl has room, so it has not ended at the number of pages
      have limit : c.config.maxPages ≤ t.discoveredEndpoints.length := by simpa using full
      omega

end Crawl

/-! ### The site of two pages -/

/-- What the two pages lead to. -/
theorem site_normalizeInScope (base link : String) (h : link = "/login" ∨ link = "/") :
    siteCrawler.normalizeInScope base link =
      .ok (some (if link = "/login" then "http://site.test/login" else "http://site.test/")) := by
  rcases h with rfl | rfl
  · rfl
  · rfl

/-- No other page is within the limit. -/
theorem site_within {u : String} {n : Nat} (way : Within siteCrawler site none none u n) :
    u = "http://site.test/" ∨ u = "http://site.test/login" := by
  induction way with
  | root r =>
      rcases r with ⟨⟨normalized, found, rfl⟩, -⟩ | ⟨member, -⟩
      · have home : siteCrawler.normalizeUrl siteCrawler.targetRoot siteCrawler.targetUrl =
            .ok (some "http://site.test/") := rfl
        obtain rfl := Except.ok.inj (home.symm.trans found)
        exact .inl rfl
      · cases member
  | hop way near links _ =>
      obtain ⟨r, answer, redirect | ⟨-, doc, parsed, link, member, admitted⟩⟩ := links
      · obtain rfl := Option.some.inj answer
        exact absurd redirect.1 (by simp [WebCrawler.redirecting])
      · obtain rfl := Except.ok.inj parsed
        have known : link = "/login" ∨ link = "/" := by
          rw [Document.links, List.filterMap_nil, List.append_nil, List.mem_singleton] at member
          rw [member]
          split
          · exact .inl rfl
          · exact .inr rfl
        rw [site_normalizeInScope _ _ known] at admitted
        rw [← Option.some.inj (Except.ok.inj admitted)]
        split
        · exact .inr rfl
        · exact .inl rfl

/-- Neither page raises. -/
theorem site_calm (url : String) : Calm siteCrawler (site url) url := by
  intro r answer
  obtain rfl := Option.some.inj answer
  refine ⟨rfl, ?_, fun _ => ⟨_, rfl, ?_⟩⟩
  · intro link member
    obtain rfl := List.mem_singleton.mp member
    exact ⟨none, rfl⟩
  · intro link member
    rw [Document.links, List.filterMap_nil, List.append_nil, List.mem_singleton] at member
    refine ⟨_, site_normalizeInScope url link ?_⟩
    rw [member]
    split
    · exact .inl rfl
    · exact .inr rfl

theorem crawl_complete_site :
    (∀ u d, (u, d) ∈ siteEnd.requests → Within siteCrawler site none none u d ∧
      ∀ n, Within siteCrawler site none none u n → d ≤ n) ∧
    (siteEnd.finished siteCrawler = true →
      siteEnd.discoveredEndpoints.length < siteCrawler.config.maxPages →
      ∀ u n, Within siteCrawler site none none u n → ∃ d ≤ n, (u, d) ∈ siteEnd.requests) := by
  have run : Run (Visit siteCrawler site) siteStart ["http://site.test/", "http://site.test/login"]
      siteEnd := by
    refine .more ⟨⟨0, [], rfl⟩, rfl⟩ (.single ⟨⟨1, [], rfl⟩, rfl⟩)
  refine crawl_complete site_start run (fun url n _ => site_calm url) ?_
  intro u n v m hu hv same
  rcases site_within hu with rfl | rfl <;> rcases site_within hv with rfl | rfl
  · rfl
  · exact absurd same (by decide +kernel)
  · exact absurd same (by decide +kernel)
  · rfl

end CyberAssess.Crawler
