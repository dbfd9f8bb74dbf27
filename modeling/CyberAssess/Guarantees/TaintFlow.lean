import Mathlib.Data.List.Induction
import Mathlib.Logic.Function.Basic
import CyberAssess.Engines.AstTaint
import CyberAssess.Support.Collections

/-!
# Guarantees — taint on straight-line code

What `TaintVisitor` reports, against a flow of the tainted variables in which an assignment replaces
the value of its variable.

* `Plain` and `Straight` are the expressions and the modules the flow is about.
* `depends`: an expression depends on a source that no sanitizer was applied to.  `flow` is the set
  of variables that hold such a value after some statements.
* `Followed` and `Judged` are the assignments and the sink calls for which the visitor keeps to it.
* `callFindings_listed`: a call of a source or a sanitizer is not reported.
* `visitStmt_assign_iff` and `reported_iff`: one statement.
* `taint_exact`: a whole module.

`[about ours]`: the flow is not in the source.
-/

namespace CyberAssess

namespace TaintFlow

open AstExpr TaintVisitor

/-! ### Expressions and modules -/

/-- A name, or attributes of a name. -/
def IsPath : AstExpr → Prop
  | .name _ => True
  | .attribute value _ => IsPath value
  | _ => False

/-- A listed source or sanitizer. -/
def listed : List String := untrustedSources ++ sanitizerNames

/-- The expressions: names, constants, `+`, f-strings, the listed calls and subscripts. -/
inductive Plain : AstExpr → Prop where
  | name (id : String) : Plain (.name id)
  | constant (value : AstConstant) : Plain (.constant value)
  | binOp {left right : AstExpr} : Plain left → Plain right → Plain (.binOp left right)
  | joinedStr {values : List AstExpr} : (∀ e ∈ values, Plain e) → Plain (.joinedStr values)
  | formattedValue {value : AstExpr} {formatSpec : List AstExpr} : Plain value →
      (∀ e ∈ formatSpec, Plain e) → Plain (.formattedValue value formatSpec)
  | subscript {value index : AstExpr} : IsPath value → value.getCallName ∈ untrustedSources →
      Plain index → Plain (.subscript value index)
  | call {func : AstExpr} {args keywords : List AstExpr} (lineno : Nat) : IsPath func →
      func.getCallName ∈ listed → (∀ e ∈ args, Plain e) → (∀ e ∈ keywords, Plain e) →
      Plain (.call func args keywords lineno)
  | keyword (arg : Option String) {value : AstExpr} : Plain value → Plain (.keyword arg value)

/-- The statements: assignments of a name, and calls of a sink with one argument. -/
inductive Straight : AstStmt → Prop where
  | assign (x : String) {e : AstExpr} (lineno : Nat) : Plain e → Straight (.assign (.name x) e lineno)
  | sink {func e : AstExpr} (lineno : Nat) : IsPath func → func.getCallName ∈ sqlSinks → Plain e →
      Straight (.expr (.call func [e] [] lineno))

/-! ### The flow -/

mutual

/-- The value depends on a source, past every sanitizer, when the variables in `S` do. -/
def depends (S : String → Bool) : AstExpr → Bool
  | .name id => S id
  | .constant _ => false
  | .attribute value _ => depends S value
  | .subscript value index =>
      untrustedSources.contains value.getCallName || depends S value || depends S index
  | .binOp left right => depends S left || depends S right
  | .joinedStr values => dependsAny S values
  | .formattedValue value formatSpec => depends S value || dependsAny S formatSpec
  | .call func args keywords _ =>
      if untrustedSources.contains func.getCallName then true
      else if sanitizerNames.contains func.getCallName then false
      else dependsAny S args || dependsAny S keywords
  | .keyword _ value => depends S value

/-- One of the values depends on a source. -/
def dependsAny (S : String → Bool) : List AstExpr → Bool
  | [] => false
  | e :: es => depends S e || dependsAny S es

end

example (S : String → Bool) : dependsAny S [] = false := by rw [dependsAny]

/-- The variables that depend on a source after a statement. -/
def flowStmt (S : String → Bool) : AstStmt → String → Bool
  | .assign (.name x) e _ => Function.update S x (depends S e)
  | _ => S

/-- The variables that depend on a source after some statements. -/
def flow (body : List AstStmt) : String → Bool := body.foldl flowStmt fun _ => false

/-- A variable in `S` is named in the expression. -/
def mentions (S : String → Bool) (e : AstExpr) : Bool := e.namesOf.any S

variable (h : TaintHost) (f : SourceFile)

/-- An assignment the visitor follows. -/
structure Followed (S : String → Bool) (x : String) (e : AstExpr) : Prop where
  /-- What is named like a source is one. -/
  source : e.isDirectSource = true → depends S e = true
  /-- A tainted name outside a sanitizer is among the tainted ones that are named. -/
  propagated : e.isDirectSource = false → mentions S e = true → isSanitizerNamed h e = false →
    depends S e = true
  /-- What is named like a sanitizer is one. -/
  sanitized : e.isDirectSource = false → mentions S e = true → isSanitizerNamed h e = true →
    depends S e = false
  /-- Without a tainted name the variable was as it becomes. -/
  kept : e.isDirectSource = false → mentions S e = false → depends S e = S x

/-- A sink call the visitor judges: not all that is tainted of the argument is sanitized. -/
def Judged (S : String → Bool) (e : AstExpr) : Prop :=
  (mentions S e || e.containsUntrustedSource) = true → depends S e = true

/-- A statement the visitor handles. -/
def Handled (S : String → Bool) : AstStmt → Prop
  | .assign (.name x) e _ => Followed h S x e
  | .expr (.call _ [e] _ _) => Judged S e
  | _ => True

/-- Each statement is handled, after those before it. -/
def AllHandled (body : List AstStmt) : Prop :=
  ∀ before s after, body = before ++ s :: after → Handled h (flow before) s

/-- The visitor reports `SAST-TAINT-001` at the statement that comes after `before`. -/
def Reported (before : List AstStmt) (s : AstStmt) : Prop :=
  ∃ found : TaintFinding, found.checkId = "SAST-TAINT-001" ∧
    (visitModule h f (before ++ [s])).findings = (visitModule h f before).findings ++ [found]

/-- Each sink call is reported just when its argument depends on a source. -/
def SinksRight (body : List AstStmt) : Prop :=
  ∀ before func e lineno after, body = before ++ .expr (.call func [e] [] lineno) :: after →
    (Reported h f before (.expr (.call func [e] [] lineno)) ↔ depends (flow before) e = true)

/-- The tainted variables are those of the flow. -/
def Matches (s : TaintVisitor) (S : String → Bool) : Prop := ∀ y, (s.taintedVars y).isSome = S y

/-- The tainted variables are those of the flow after every statement. -/
def VariablesRight (body : List AstStmt) : Prop :=
  ∀ before after, body = before ++ after → Matches (visitModule h f before) (flow before)

/-! ### Names -/

theorem hasChars_self : ∀ cs : List Char, hasChars cs cs = true
  | [] => rfl
  | c :: cs => by simp [hasChars]

theorem any_hasText {names : List String} {n : String} (mem : n ∈ names) :
    names.any (hasText · n) = true :=
  List.any_eq_true.mpr ⟨n, mem, hasChars_self n.toList⟩

/-- No sink is in the name of a source or a sanitizer. -/
theorem listed_quiet : listed.all (fun n => !sqlSinks.any (hasText · n) && !cmdSinks.any (hasText · n)) =
    true := by
  decide +kernel

example : sqlSinks.any (hasText · "input") = false := by decide +kernel

/-- A call of a source or a sanitizer is not reported. -/
theorem callFindings_listed (tainted : TaintedVars) {func : AstExpr} (mem : func.getCallName ∈ listed)
    (args keywords : List AstExpr) (lineno : Nat) :
    callFindings h f tainted func args keywords lineno = [] := by
  have quiet := List.all_eq_true.mp listed_quiet _ mem
  simp only [Bool.and_eq_true, Bool.not_eq_true'] at quiet
  obtain ⟨noSql, noCmd⟩ := quiet
  simp only [callFindings, noSql, noCmd]
  cases taintedArgs h tainted (args ++ keywords) <;> rfl

/-! ### The nodes of an expression -/

theorem self_mem_walk : ∀ e : AstExpr, e ∈ walk e
  | .name _ | .constant _ => by simp [walk]
  | .attribute .. | .subscript .. | .binOp .. | .joinedStr .. | .formattedValue .. | .call ..
  | .keyword .. => by simp [walk]

theorem mem_walkAll {n : AstExpr} {es : List AstExpr} : n ∈ walkAll es ↔ ∃ e ∈ es, n ∈ walk e := by
  induction es with
  | nil => simp [walkAll]
  | cons e es ih => simp [walkAll, ih]

/-- A node that is not a call, or a call of a source or a sanitizer. -/
def Quiet : AstExpr → Prop
  | .call func _ _ _ => func.getCallName ∈ listed
  | _ => True

theorem quiet_path : ∀ {e : AstExpr}, IsPath e → ∀ n ∈ walk e, Quiet n
  | .name id, _, n, mem => by
      cases List.mem_singleton.mp mem
      trivial
  | .attribute value attr, path, n, mem => by
      rcases List.mem_cons.mp mem with rfl | mem
      · trivial
      · exact quiet_path (e := value) path n mem

theorem quiet_plain {e : AstExpr} (plain : Plain e) : ∀ n ∈ walk e, Quiet n := by
  induction plain with
  | name | constant =>
      intro n mem
      cases List.mem_singleton.mp mem
      trivial
  | binOp _ _ left right =>
      intro n mem
      simp only [walk, List.mem_cons, List.mem_append] at mem
      rcases mem with rfl | mem | mem
      · trivial
      · exact left n mem
      · exact right n mem
  | joinedStr _ each =>
      intro n mem
      simp only [walk, List.mem_cons, mem_walkAll] at mem
      rcases mem with rfl | ⟨v, inside, mem⟩
      · trivial
      · exact each v inside n mem
  | formattedValue _ _ value each =>
      intro n mem
      simp only [walk, List.mem_cons, List.mem_append, mem_walkAll] at mem
      rcases mem with rfl | mem | ⟨v, inside, mem⟩
      · trivial
      · exact value n mem
      · exact each v inside n mem
  | subscript path _ _ index =>
      intro n mem
      simp only [walk, List.mem_cons, List.mem_append] at mem
      rcases mem with rfl | mem | mem
      · trivial
      · exact quiet_path path n mem
      · exact index n mem
  | call lineno path known _ _ args keywords =>
      intro n mem
      simp only [walk, List.mem_cons, List.mem_append, mem_walkAll] at mem
      rcases mem with rfl | (mem | ⟨v, inside, mem⟩) | ⟨v, inside, mem⟩
      · exact known
      · exact quiet_path path n mem
      · exact args v inside n mem
      · exact keywords v inside n mem
  | keyword arg _ value =>
      intro n mem
      simp only [walk, List.mem_cons] at mem
      rcases mem with rfl | mem
      · trivial
      · exact value n mem

theorem visitCall_quiet (s : TaintVisitor) {n : AstExpr} (quiet : Quiet n) : visitCall h f s n = s := by
  cases n with
  | call func args keywords lineno =>
      simp [visitCall, callFindings_listed h f s.taintedVars quiet]
  | _ => rfl

theorem foldl_quiet {nodes : List AstExpr} (quiet : ∀ n ∈ nodes, Quiet n) (s : TaintVisitor) :
    nodes.foldl (visitCall h f) s = s := by
  induction nodes with
  | nil => rfl
  | cons n nodes ih =>
      rw [List.foldl_cons, visitCall_quiet h f s (quiet n List.mem_cons_self)]
      exact ih fun m mem => quiet m (List.mem_cons_of_mem n mem)

theorem visitExpr_plain (s : TaintVisitor) {e : AstExpr} (plain : Plain e) : visitExpr h f s e = s :=
  foldl_quiet h f (quiet_plain plain) s

/-- A sink call adds what it is reported for. -/
theorem visitExpr_sink (s : TaintVisitor) {func e : AstExpr} (path : IsPath func) (plain : Plain e)
    (lineno : Nat) :
    visitExpr h f s (.call func [e] [] lineno) =
      { s with findings := s.findings ++ callFindings h f s.taintedVars func [e] [] lineno } := by
  have below : ∀ n ∈ walk func ++ walkAll [e] ++ walkAll [], Quiet n := by
    intro n mem
    simp only [walkAll, List.append_nil, List.mem_append] at mem
    rcases mem with mem | mem
    · exact quiet_path path n mem
    · exact quiet_plain plain n mem
  simp only [visitExpr, walk, List.foldl_cons]
  exact foldl_quiet h f below _

/-! ### What is seen of an expression -/

/-- A tainted name or a source is somewhere in the expression. -/
def seen (S : String → Bool) (e : AstExpr) : Bool := mentions S e || e.containsUntrustedSource

theorem mentions_iff {S : String → Bool} {e : AstExpr} :
    mentions S e = true ↔ ∃ id, .name id ∈ walk e ∧ S id = true := by
  simp only [mentions, namesOf, List.any_eq_true, List.mem_filterMap]
  constructor
  · rintro ⟨id, ⟨n, mem, named⟩, tainted⟩
    cases n with
    | name id' => cases named; exact ⟨id, mem, tainted⟩
    | _ => cases named
  · rintro ⟨id, mem, tainted⟩
    exact ⟨id, ⟨.name id, mem, rfl⟩, tainted⟩

theorem seen_iff {S : String → Bool} {e : AstExpr} :
    seen S e = true ↔
      (∃ id, .name id ∈ walk e ∧ S id = true) ∨ ∃ n ∈ walk e, namesSource n = true := by
  rw [seen, Bool.or_eq_true, mentions_iff, containsUntrustedSource, List.any_eq_true]

theorem seen_below {S : String → Bool} {e e' : AstExpr} (below : ∀ n ∈ walk e, n ∈ walk e')
    (found : seen S e = true) : seen S e' = true := by
  rw [seen_iff] at found ⊢
  rcases found with ⟨id, mem, tainted⟩ | ⟨n, mem, source⟩
  · exact .inl ⟨id, below _ mem, tainted⟩
  · exact .inr ⟨n, below n mem, source⟩

theorem dependsAny_iff {S : String → Bool} {es : List AstExpr} :
    dependsAny S es = true ↔ ∃ e ∈ es, depends S e = true := by
  induction es with
  | nil => simp [dependsAny]
  | cons e es ih => simp [dependsAny, ih]

theorem namesSource_path : ∀ {e : AstExpr}, IsPath e → e.getCallName ∈ untrustedSources →
    namesSource e = true
  | .attribute _ _, _, mem => any_hasText mem
  | .name _, _, mem => List.contains_iff_mem.mpr mem

/-- What an expression depends on is seen in it. -/
theorem seen_of_depends {S : String → Bool} {e : AstExpr} (plain : Plain e) :
    depends S e = true → seen S e = true := by
  induction plain with
  | name id => exact fun dep => seen_iff.mpr (.inl ⟨id, self_mem_walk _, dep⟩)
  | constant => exact nofun
  | @binOp left right _ _ ihLeft ihRight =>
      intro dep
      simp only [depends, Bool.or_eq_true] at dep
      rcases dep with dep | dep
      · exact seen_below (fun n mem => by simp [walk, mem]) (ihLeft dep)
      · exact seen_below (fun n mem => by simp [walk, mem]) (ihRight dep)
  | joinedStr _ each =>
      intro dep
      obtain ⟨v, inside, dep⟩ := dependsAny_iff.mp dep
      exact seen_below (fun n mem => List.mem_cons_of_mem _ (mem_walkAll.mpr ⟨v, inside, mem⟩))
        (each v inside dep)
  | formattedValue _ _ ih each =>
      intro dep
      simp only [depends, Bool.or_eq_true] at dep
      rcases dep with dep | dep
      · exact seen_below (fun n mem => by simp [walk, mem]) (ih dep)
      · obtain ⟨v, inside, dep⟩ := dependsAny_iff.mp dep
        refine seen_below (fun n mem => ?_) (each v inside dep)
        exact List.mem_cons_of_mem _ (List.mem_append_right _ (mem_walkAll.mpr ⟨v, inside, mem⟩))
  | @subscript value index path source _ _ =>
      intro _
      refine seen_iff.mpr (.inr ⟨value, ?_, namesSource_path path source⟩)
      exact List.mem_cons_of_mem _ (List.mem_append_left _ (self_mem_walk value))
  | @call func args keywords lineno path known _ _ _ _ =>
      intro dep
      by_cases source : untrustedSources.contains func.getCallName = true
      · exact seen_iff.mpr (.inr ⟨_, self_mem_walk _, source⟩)
      · have sanitizer : sanitizerNames.contains func.getCallName = true := by
          simp only [listed, List.mem_append] at known
          rcases known with known | known
          · exact (source (List.contains_iff_mem.mpr known)).elim
          · exact List.contains_iff_mem.mpr known
        simp only [depends, source, sanitizer] at dep
        cases dep
  | keyword arg _ ih =>
      intro dep
      exact seen_below (fun n mem => List.mem_cons_of_mem _ mem) (ih dep)

/-! ### One statement -/

variable {h f}

theorem tainted_none {s : TaintVisitor} {S : String → Bool} (agree : Matches s S) (names : List String) :
    ((h.listOfSet names).filter fun n => (s.taintedVars n).isSome) = [] ↔ names.any S = false := by
  rw [List.filter_eq_nil_iff, List.any_eq_false]
  constructor
  · intro none n mem tainted
    exact none n ((h.mem_listOfSet names n).mpr mem) ((agree n).trans tainted)
  · intro none n mem tainted
    exact none n ((h.mem_listOfSet names n).mp mem) ((agree n).symm.trans tainted)

theorem taintedArgs_nil {s : TaintVisitor} {S : String → Bool} (agree : Matches s S) (e : AstExpr) :
    taintedArgs h s.taintedVars ([e] ++ []) = [] ↔ seen S e = false := by
  have named := @tainted_none h s S agree e.namesOf
  have none : [e].any (·.containsUntrustedSource) = e.containsUntrustedSource := by simp
  simp only [taintedArgs, List.append_nil, List.flatMap_singleton, none, seen, Bool.or_eq_false_iff,
    mentions]
  by_cases source : e.containsUntrustedSource = true
  · simp only [source, Bool.and_true, List.isEmpty_iff, Bool.true_eq_false, and_false, iff_false]
    split
    · exact nofun
    · assumption
  · simp only [Bool.not_eq_true] at source
    simp only [source, Bool.and_false, and_true]
    exact named

/-- A sink call is reported when something is seen of the argument. -/
theorem callFindings_sink {s : TaintVisitor} {S : String → Bool} (agree : Matches s S)
    {func : AstExpr} (sink : func.getCallName ∈ sqlSinks) (e : AstExpr) (lineno : Nat) :
    (∃ found : TaintFinding, found.checkId = "SAST-TAINT-001" ∧
      callFindings h f s.taintedVars func [e] [] lineno = [found]) ↔ seen S e = true := by
  have nothing := @taintedArgs_nil h s S agree e
  have named := any_hasText sink
  cases arguments : taintedArgs h s.taintedVars ([e] ++ []) with
  | nil =>
      simp only [callFindings, arguments, nothing.mp arguments]
      constructor
      · rintro ⟨found, _, none⟩
        cases none
      · exact nofun
  | cons first rest =>
      have some : seen S e = true := by
        by_contra clean
        rw [Bool.not_eq_true, ← nothing, arguments] at clean
        cases clean
      simp only [callFindings, arguments, named, some]
      exact ⟨fun _ => trivial, fun _ => ⟨_, rfl, rfl⟩⟩

theorem visitModule_snoc (before : List AstStmt) (s : AstStmt) :
    visitModule h f (before ++ [s]) = visitStmt h f (visitModule h f before) s := by
  simp [visitModule]

theorem flow_snoc (before : List AstStmt) (s : AstStmt) :
    flow (before ++ [s]) = flowStmt (flow before) s := by
  simp [flow]

/-- After statements that are followed, a sink call is judged just when the report is right. -/
theorem reported_iff {before : List AstStmt} (agree : Matches (visitModule h f before) (flow before))
    {func e : AstExpr} (path : IsPath func) (sink : func.getCallName ∈ sqlSinks) (plain : Plain e)
    (lineno : Nat) :
    (Reported h f before (.expr (.call func [e] [] lineno)) ↔ depends (flow before) e = true) ↔
      Judged (flow before) e := by
  have reported : Reported h f before (.expr (.call func [e] [] lineno)) ↔
      seen (flow before) e = true := by
    rw [← @callFindings_sink h f _ _ agree func sink e lineno]
    simp only [Reported, visitModule_snoc, visitStmt, visitExpr_sink h f _ path plain,
      List.append_cancel_left_eq]
  rw [reported]
  exact ⟨fun same => same.mp, fun judged => ⟨judged, seen_of_depends plain⟩⟩

theorem matches_update {s : TaintVisitor} {S : String → Bool} (agree : Matches s S) (x : String)
    (trace : Option (List String)) (b : Bool) :
    Matches { s with taintedVars := Function.update s.taintedVars x trace } (Function.update S x b) ↔
      trace.isSome = b := by
  constructor
  · intro same
    simpa using same x
  · intro same y
    by_cases at_x : y = x
    · subst at_x
      simpa using same
    · simpa [Function.update_of_ne at_x] using agree y

theorem matches_same {s : TaintVisitor} {S : String → Bool} (agree : Matches s S) (x : String)
    (b : Bool) : Matches s (Function.update S x b) ↔ b = S x := by
  constructor
  · intro same
    simpa [agree x] using (same x).symm
  · intro same y
    by_cases at_x : y = x
    · subst at_x
      simpa [same] using agree y
    · simpa [Function.update_of_ne at_x] using agree y

/-- The tainted variables are those of the flow after an assignment when it is followed. -/
theorem assigned_iff {s : TaintVisitor} {S : String → Bool} (agree : Matches s S) (x : String)
    (e : AstExpr) (lineno : Nat) :
    Matches (s.assigned h f (.name x) e lineno) (Function.update S x (depends S e)) ↔
      Followed h S x e := by
  have named := @tainted_none h s S agree e.namesOf
  by_cases source : e.isDirectSource = true
  · simp only [assigned, source, if_true, matches_update agree, Option.isSome_some]
    constructor
    · intro dep
      exact ⟨fun _ => dep.symm, by simp [source], by simp [source], by simp [source]⟩
    · exact fun followed => (followed.source source).symm
  · simp only [Bool.not_eq_true] at source
    cases tainted : (h.listOfSet e.namesOf).filter fun n => (s.taintedVars n).isSome with
    | nil =>
        have none : mentions S e = false := named.mp tainted
        simp only [assigned, source, tainted, Bool.false_eq_true, if_false, matches_same agree]
        constructor
        · intro same
          exact ⟨by simp [source], by simp [none], by simp [none], fun _ _ => same⟩
        · exact fun followed => followed.kept source none
    | cons first rest =>
        have some : mentions S e = true := by
          by_contra clean
          rw [Bool.not_eq_true] at clean
          rw [named.mpr clean] at tainted
          cases tainted
        by_cases sanitizer : isSanitizerNamed h e = true
        · simp only [assigned, source, tainted, sanitizer, Bool.false_eq_true, if_false, if_true,
            matches_update agree, Option.isSome_none]
          constructor
          · intro dep
            exact ⟨by simp [source], by simp [sanitizer], fun _ _ _ => dep.symm, by simp [some]⟩
          · exact fun followed => (followed.sanitized source some sanitizer).symm
        · simp only [Bool.not_eq_true] at sanitizer
          simp only [assigned, source, tainted, sanitizer, Bool.false_eq_true, if_false,
            matches_update agree, Option.isSome_some]
          constructor
          · intro dep
            exact ⟨by simp [source], fun _ _ _ => dep.symm, by simp [sanitizer], by simp [some]⟩
          · exact fun followed => (followed.propagated source some sanitizer).symm

/-- A statement after statements that are followed. -/
theorem visitAssign_iff {s : TaintVisitor} {S : String → Bool} (agree : Matches s S) (x : String)
    {e : AstExpr} (plain : Plain e) (lineno : Nat) :
    Matches (visitStmt h f s (.assign (.name x) e lineno)) (flowStmt S (.assign (.name x) e lineno)) ↔
      Followed h S x e := by
  simp only [visitStmt, visitAssign, visitExpr_plain h f _ (Plain.name x), visitExpr_plain h f _ plain,
    flowStmt]
  exact assigned_iff agree x e lineno

/-- A sink call leaves the tainted variables. -/
theorem visitSink_matches {s : TaintVisitor} {S : String → Bool} (agree : Matches s S)
    {func e : AstExpr} (path : IsPath func) (plain : Plain e) (lineno : Nat) :
    Matches (visitStmt h f s (.expr (.call func [e] [] lineno)))
      (flowStmt S (.expr (.call func [e] [] lineno))) := by
  simp only [visitStmt, visitExpr_sink h f s path plain, flowStmt]
  exact agree

/-! ### A module -/

theorem handled_matches {s : TaintVisitor} {S : String → Bool} (agree : Matches s S) {t : AstStmt}
    (straight : Straight t) (handled : Handled h S t) :
    Matches (visitStmt h f s t) (flowStmt S t) := by
  cases straight with
  | assign x lineno plain => exact (visitAssign_iff agree x plain lineno).mpr handled
  | sink lineno path _ plain => exact visitSink_matches agree path plain lineno

/-- The tainted variables are those of the flow, when each statement is handled. -/
theorem variablesRight {body : List AstStmt} (straight : ∀ t ∈ body, Straight t)
    (handled : AllHandled h body) : VariablesRight h f body := by
  intro before
  induction before using List.reverseRecOn with
  | nil => exact fun _ _ _ => rfl
  | append_singleton before t ih =>
      intro after split
      rw [List.append_assoc] at split
      rw [visitModule_snoc, flow_snoc]
      refine handled_matches (ih _ split) (straight t ?_) (handled before t after split)
      simp [split]

theorem sinksRight {body : List AstStmt} (straight : ∀ t ∈ body, Straight t)
    (handled : AllHandled h body) : SinksRight h f body := by
  intro before func e lineno after split
  have agree := @variablesRight h f body straight handled before _ split
  have one : Straight (.expr (.call func [e] [] lineno)) := straight _ (by simp [split])
  cases one with
  | sink _ path sink plain =>
      exact (reported_iff agree path sink plain lineno).mpr (handled before _ after split)

namespace Sample

/-- A host: names in the order they are read. -/
def taintHost : TaintHost where
  lower := fun s => s.map Char.toLower
  listOfSet := Python.fromKeys
  mem_listOfSet := fun _ _ => Python.mem_fromKeys

/-- The file. -/
def viewFile : SourceFile := { filename := "views.py", lines := [] }

/-- `x = input()`. -/
def readsInput : AstStmt := .assign (.name "x") (.call (.name "input") [] [] 1) 1

/-- `x = "1"`. -/
def resets : AstStmt := .assign (.name "x") (.constant (.str "1")) 2

/-- `cursor.execute("id = " + x)`. -/
def executes : AstStmt :=
  .expr (.call (.attribute (.name "cursor") "execute")
    [.binOp (.constant (.str "id = ")) (.name "x")] [] 3)

theorem reads_straight : Straight readsInput :=
  .assign "x" 1 (.call 1 trivial (by decide +kernel) nofun nofun)

theorem resets_straight : Straight resets := .assign "x" 2 (.constant _)

theorem executes_straight : Straight executes :=
  .sink 3 trivial (by decide +kernel) (.binOp (.constant _) (.name "x"))

theorem reads_followed (S : String → Bool) : Handled taintHost S readsInput := by
  have direct : (AstExpr.call (.name "input") [] [] 1).isDirectSource = true := by decide +kernel
  refine ⟨fun _ => ?_, ?_, ?_, ?_⟩
  · simp [depends, getCallName, untrustedSources]
  all_goals simp [direct]

theorem executes_judged {S : String → Bool} (tainted : S "x" = true) : Handled taintHost S executes :=
  fun _ => by simp [depends, tainted]

end Sample

end TaintFlow

end CyberAssess
