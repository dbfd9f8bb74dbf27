import CyberAssess.Findings.Correlator

/-!
# Engines — the taint analyser

`TaintVisitor` of `engines/code_sast/ast_taint_analyzer.py`, on the syntax trees of Python.

* `AstExpr` is an expression as `ast.parse` returns it, `AstStmt` a statement of a module.
* `getCallName`, `namesOf` and `containsUntrustedSource` read an expression.
* `TaintVisitor.visitAssign` follows an assignment, `TaintVisitor.visitCall` reports a call.
* `visitModule` goes through the statements of a module.

`[about ours]`: an assignment has one target.  Of a finding what depends on the code is kept.
-/

namespace CyberAssess

open Python (strip)

/-! ### Syntax -/

/-- The value of `ast.Constant`. -/
inductive AstConstant where
  | none
  | bool (b : Bool)
  | int (n : Int)
  | str (s : String)
deriving DecidableEq, Repr

/-- An expression, with the line of each call. -/
inductive AstExpr where
  | name (id : String)
  | constant (value : AstConstant)
  | attribute (value : AstExpr) (attr : String)
  | subscript (value index : AstExpr)
  | binOp (left right : AstExpr)
  | joinedStr (values : List AstExpr)
  | formattedValue (value : AstExpr) (formatSpec : List AstExpr)
  | call (func : AstExpr) (args keywords : List AstExpr) (lineno : Nat)
  | keyword (arg : Option String) (value : AstExpr)

/-- A statement of a module. -/
inductive AstStmt where
  | assign (target value : AstExpr) (lineno : Nat)
  | expr (value : AstExpr)

/-! ### Names -/

/-- `UNTRUSTED_SOURCES`. -/
def untrustedSources : List String :=
  ["request.args.get", "request.args", "request.form.get", "request.form", "request.values.get",
    "request.json.get", "request.json", "request.GET.get", "request.GET", "request.POST.get",
    "request.POST", "sys.argv", "input"]

/-- `SQL_SINKS`. -/
def sqlSinks : List String :=
  ["cursor.execute", "db.session.execute", "engine.execute", "connection.execute",
    "db.engine.execute", "raw_connection.execute"]

/-- `CMD_SINKS`. -/
def cmdSinks : List String :=
  ["subprocess.Popen", "subprocess.run", "subprocess.call", "subprocess.check_output", "os.system",
    "os.popen"]

/-- `SANITIZER_NAMES`. -/
def sanitizerNames : List String :=
  ["escape", "escape_string", "quote", "shlex.quote", "parameterize", "sanitize", "sanitize_sql",
    "validate_input", "bleach.clean"]

namespace AstExpr

/-- `_get_call_name`. -/
def getCallName : AstExpr → String
  | .name id => id
  | .attribute value attr =>
      let valueName := getCallName value
      if valueName.isEmpty then attr else valueName ++ "." ++ attr
  | .call func _ _ _ => getCallName func
  | _ => ""

mutual

/-- The node and those below it, in the order they are visited. -/
def walk : AstExpr → List AstExpr
  | .name id => [.name id]
  | .constant value => [.constant value]
  | .attribute value attr => .attribute value attr :: walk value
  | .subscript value index => .subscript value index :: (walk value ++ walk index)
  | .binOp left right => .binOp left right :: (walk left ++ walk right)
  | .joinedStr values => .joinedStr values :: walkAll values
  | .formattedValue value formatSpec =>
      .formattedValue value formatSpec :: (walk value ++ walkAll formatSpec)
  | .call func args keywords lineno =>
      .call func args keywords lineno :: (walk func ++ walkAll args ++ walkAll keywords)
  | .keyword arg value => .keyword arg value :: walk value

/-- The nodes of some expressions. -/
def walkAll : List AstExpr → List AstExpr
  | [] => []
  | e :: es => walk e ++ walkAll es

end

example : walkAll [] = [] := by rw [walkAll]

/-- `_extract_names_from_expr`. -/
def namesOf (e : AstExpr) : List String :=
  (walk e).filterMap fun
    | .name id => some id
    | _ => none

/-- A source is named by a node. -/
def namesSource : AstExpr → Bool
  | .attribute value attr =>
      untrustedSources.any fun source => hasText source (getCallName (.attribute value attr))
  | e => untrustedSources.contains (getCallName e)

/-- `_contains_untrusted_source`. -/
def containsUntrustedSource (e : AstExpr) : Bool := (walk e).any namesSource

/-- The right side of an assignment is taken for a source. -/
def isDirectSource (value : AstExpr) : Bool :=
  untrustedSources.any (fun source => hasText source (getCallName value)) ||
    match value with
    | .subscript object _ => untrustedSources.any fun source => hasText source (getCallName object)
    | _ => false

end AstExpr

/-! ### The visitor -/

/-- `str.lower` and the order of a set of names. -/
structure TaintHost where
  lower : String → String
  listOfSet : List String → List String
  mem_listOfSet : ∀ names n, n ∈ listOfSet names ↔ n ∈ names

/-- The file that is analysed. -/
structure SourceFile where
  filename : String
  lines : List String

namespace SourceFile

variable (f : SourceFile)

/-- `code_line`. -/
def codeLine (lineno : Nat) : String :=
  if lineno = 0 then "" else strip (f.lines.getD (lineno - 1) "")

/-- A step of a trace. -/
def step (kind : String) (lineno : Nat) : String :=
  kind ++ " (" ++ f.filename ++ ":" ++ toString lineno ++ "): " ++ f.codeLine lineno

end SourceFile

/-- What a finding says of the code. -/
structure TaintFinding where
  checkId : String
  location : String
  observedValue : String
  lineNumber : Nat
  taintTrace : List String
deriving DecidableEq, Repr

/-- `self.tainted_vars`: the trace of each tainted variable. -/
abbrev TaintedVars := String → Option (List String)

/-- `TaintVisitor`. -/
structure TaintVisitor where
  taintedVars : TaintedVars := fun _ => none
  findings : List TaintFinding := []

namespace TaintVisitor

variable (h : TaintHost) (f : SourceFile)

/-- `shell=True`, or a function that always starts one. -/
def hasShellTrue (callName : String) (keywords : List AstExpr) : Bool :=
  keywords.any (fun
    | .keyword (some "shell") (.constant (.bool true)) => true
    | _ => false) || hasText "os.system" callName || hasText "os.popen" callName

/-- The name a sanitizer is recognised by is in the name of a call. -/
def isSanitizerNamed (value : AstExpr) : Bool :=
  sanitizerNames.any fun name => hasText name (h.lower value.getCallName)

/-- What is tainted of the arguments of a call. -/
def taintedArgs (tainted : TaintedVars) (arguments : List AstExpr) : List String :=
  let args := (h.listOfSet (arguments.flatMap (·.namesOf))).filter fun n => (tainted n).isSome
  if args.isEmpty && arguments.any (·.containsUntrustedSource) then ["<direct-source>"] else args

/-- What a call is reported for. -/
def callFindings (tainted : TaintedVars) (func : AstExpr) (args keywords : List AstExpr) (lineno : Nat) :
    List TaintFinding :=
  let callName := func.getCallName
  match taintedArgs h tainted (args ++ keywords) with
  | [] => []
  | firstTaint :: _ =>
      let trace := (tainted firstTaint).getD [f.step "Source" lineno] ++ [f.step "Sink" lineno]
      let location := f.filename ++ ":" ++ toString lineno
      if sqlSinks.any (hasText · callName) then
        [{ checkId := "SAST-TAINT-001"
           location := location
           observedValue := "Untrusted input variable '" ++ firstTaint ++
             "' flows into SQL execution sink '" ++ callName ++ "'"
           lineNumber := lineno
           taintTrace := trace }]
      else if cmdSinks.any (hasText · callName) && hasShellTrue callName keywords then
        [{ checkId := "SAST-TAINT-002"
           location := location
           observedValue := "Untrusted input variable '" ++ firstTaint ++
             "' flows into shell command execution sink '" ++ callName ++ "'"
           lineNumber := lineno
           taintTrace := trace }]
      else []

/-- `visit_Call`, before the nodes below are visited. -/
def visitCall (s : TaintVisitor) : AstExpr → TaintVisitor
  | .call func args keywords lineno =>
      { s with findings := s.findings ++ callFindings h f s.taintedVars func args keywords lineno }
  | _ => s

/-- `generic_visit` of an expression. -/
def visitExpr (s : TaintVisitor) (e : AstExpr) : TaintVisitor := e.walk.foldl (visitCall h f) s

/-- The update of `tainted_vars` by an assignment. -/
def assigned (s : TaintVisitor) (target value : AstExpr) (lineno : Nat) : TaintVisitor :=
  match target with
  | .name varName =>
      if value.isDirectSource then
        { s with taintedVars := Function.update s.taintedVars varName (some [f.step "Source" lineno]) }
      else
        match (h.listOfSet value.namesOf).filter fun n => (s.taintedVars n).isSome with
        | [] => s
        | first :: _ =>
            if isSanitizerNamed h value then
              { s with taintedVars := Function.update s.taintedVars varName none }
            else
              { s with
                taintedVars := Function.update s.taintedVars varName
                  (some ((s.taintedVars first).getD [] ++ [f.step "Propagate" lineno])) }
  | _ => s

/-- `visit_Assign`. -/
def visitAssign (s : TaintVisitor) (target value : AstExpr) (lineno : Nat) : TaintVisitor :=
  visitExpr h f (visitExpr h f (s.assigned h f target value lineno) target) value

/-- A statement is visited. -/
def visitStmt (s : TaintVisitor) : AstStmt → TaintVisitor
  | .assign target value lineno => s.visitAssign h f target value lineno
  | .expr value => visitExpr h f s value

/-- `visitor.visit(tree)`. -/
def visitModule (body : List AstStmt) : TaintVisitor := body.foldl (visitStmt h f) {}

end TaintVisitor

end CyberAssess
