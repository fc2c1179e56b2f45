import SyscallFilter.Config
import SyscallFilter.Proofs.Registry
import SyscallFilter.Proofs.Rejection

/-!
# Runs of a builder

What a builder is asked comes in any order, and some of it is refused. Every run leaves what was granted on the way, and
the selection of its paths. A configuration is a run of clauses and paths, which leaves the registry of the rules that
its clauses come to.
-/

namespace SyscallFilter

/-! ## Requests -/

/-- What a builder can be asked. A clause can come as one text or in its parts, a kind also by its name. -/
inductive Request where
  | qualify (text : String)
  | clause (c : Clause)
  | path (path : String)
  | action (kind : ActionKind)
  | actionNamed (name : String)

def Request.path? : Request → Option String
  | path q => some q
  | _ => none

def Clause.kind? (c : Clause) : Option ActionKind :=
  match Qualifier.ofName? c.name with
  | some (.action k) => some k
  | _ => none

theorem Clause.kind?_eq_some_iff (c : Clause) (k : ActionKind) :
    c.kind? = some k ↔ Qualifier.ofName? c.name = some (.action k) := by
  unfold Clause.kind?
  rcases Qualifier.ofName? c.name with _ | _ | _ <;> simp

/-- The rule that a clause comes to, if it is about an action and accepted. -/
def Clause.rule? (p : Personalities) (c : Clause) : Option Rule := c.kind?.bind fun k => (c.rule k p).toOption

/-- What a request is granted, if it is not refused. -/
def Request.grant? (p : Personalities) : Request → Option Grant
  | qualify text => ((Clause.split text).rule? p).map .rule
  | clause c => (c.rule? p).map .rule
  | path _ => none
  | action k => some (.bare k)
  | actionNamed name => (ActionKind.ofName? name).map .bare

namespace Builder

def serve (b : Builder) : Request → Builder
  | .qualify text => (b.qualify text).state
  | .clause c => (b.apply c).state
  | .path q => b.tracePath q
  | .action k => (b.findOrAdd k).2.1
  | .actionNamed name =>
    match b.findOrAddNamed name with
    | .ok found => found.2.1
    | .error _ => b

def serveAll (b : Builder) (requests : List Request) : Builder := requests.foldl serve b

theorem apply_cases (b : Builder) (c : Clause) :
    (∃ r, c.rule? b.personalities = some r ∧ (b.apply c).state = b.enter r) ∨
    (∃ signals, c.rule? b.personalities = none ∧ (b.apply c).state = { b with signals }) := by
  unfold Clause.rule? Clause.kind?
  cases name : Qualifier.ofName? c.name with
  | none => exact .inr ⟨b.signals, rfl, (b.apply_unknown c name).2⟩
  | some q =>
    cases q with
    | signals => exact .inr ⟨_, rfl, (b.apply_signals c name).2⟩
    | action k =>
      have entered := b.apply_action c name
      rw [Option.bind_some]
      cases rule : c.rule k b.personalities with
      | ok r =>
        rw [rule] at entered
        exact .inl ⟨r, rfl, entered.2⟩
      | error e =>
        rw [rule] at entered
        exact .inr ⟨b.signals, rfl, entered.2⟩

theorem serve_cases (b : Builder) (r : Request) :
    (∃ g, r.grant? b.personalities = some g ∧ r.path? = none ∧ b.serve r = b.give g) ∨
    (∃ q, r.grant? b.personalities = none ∧ r.path? = some q ∧ b.serve r = b.tracePath q) ∨
    (∃ signals, r.grant? b.personalities = none ∧ r.path? = none ∧ b.serve r = { b with signals }) := by
  have added (k : ActionKind) : (b.findOrAdd k).2.1 = b.give (.bare k) := by
    unfold give onAction modifyAction Grant.give
    rw [List.modify_id]
    rfl
  have clause (c : Clause) :
      (∃ g, (c.rule? b.personalities).map Grant.rule = some g ∧ (b.apply c).state = b.give g) ∨
      (∃ signals, (c.rule? b.personalities).map Grant.rule = none ∧ (b.apply c).state = { b with signals }) := by
    obtain ⟨r, rule, state⟩ | ⟨signals, rule, state⟩ := b.apply_cases c <;> rw [rule]
    · exact .inl ⟨.rule r, rfl, state⟩
    · exact .inr ⟨signals, rfl, state⟩
  cases r with
  | path q => exact .inr (.inl ⟨q, rfl, rfl, rfl⟩)
  | action k => exact .inl ⟨.bare k, rfl, rfl, added k⟩
  | actionNamed name =>
    simp only [Request.grant?, serve, findOrAddNamed]
    cases ActionKind.ofName? name with
    | none => exact .inr (.inr ⟨b.signals, rfl, rfl, rfl⟩)
    | some k => exact .inl ⟨.bare k, rfl, rfl, added k⟩
  | clause c =>
    obtain ⟨g, granted, state⟩ | ⟨signals, refused, state⟩ := clause c
    · exact .inl ⟨g, granted, rfl, state⟩
    · exact .inr (.inr ⟨signals, refused, rfl, state⟩)
  | qualify text =>
    obtain ⟨g, granted, state⟩ | ⟨signals, refused, state⟩ := clause (.split text)
    · exact .inl ⟨g, granted, rfl, state⟩
    · exact .inr (.inr ⟨signals, refused, rfl, state⟩)

theorem serve_personalities (b : Builder) (r : Request) : (b.serve r).personalities = b.personalities := by
  obtain ⟨g, -, -, served⟩ | ⟨_, -, -, served⟩ | ⟨_, -, -, served⟩ := b.serve_cases r <;> rw [served]
  · exact b.onAction_personalities g.kind g.give
  · rfl

end Builder

namespace Granted

variable {p : Personalities} {grants : List Grant} {b : Builder}

theorem serve (granted : Granted p grants b) (r : Request) :
    Granted p (grants ++ (r.grant? p).toList) (b.serve r) ∧
      (b.serve r).paths = r.path?.toList.foldl PathSet.select b.paths := by
  have personalities := granted.personalities
  obtain ⟨g, given, path, served⟩ | ⟨q, given, path, served⟩ | ⟨signals, given, path, served⟩ := b.serve_cases r <;>
    rw [personalities] at given <;> rw [given, path, served]
  · exact ⟨granted.give g, b.onAction_paths g.kind g.give⟩
  · rw [Option.toList_none, List.append_nil]
    exact ⟨granted.congr rfl rfl rfl, rfl⟩
  · rw [Option.toList_none, List.append_nil]
    exact ⟨granted.congr rfl rfl rfl, rfl⟩

theorem serveAll (granted : Granted p grants b) (requests : List Request) :
    Granted p (grants ++ requests.filterMap (·.grant? p)) (b.serveAll requests) ∧
      (b.serveAll requests).paths = (requests.filterMap Request.path?).foldl PathSet.select b.paths := by
  induction requests generalizing grants b with
  | nil => exact ⟨(List.append_nil grants).symm ▸ granted, rfl⟩
  | cons r rest ih =>
    obtain ⟨first, paths⟩ := granted.serve r
    obtain ⟨run, later⟩ := ih first
    rw [List.append_assoc] at run
    rw [List.filterMap_cons, List.filterMap_cons]
    refine ⟨?_, later.trans ?_⟩
    · cases given : r.grant? p <;> rw [given] at run <;> exact run
    · rw [paths]
      cases r.path? <;> rfl

end Granted

/-! ## Clauses and paths -/

/-- One thing that a configuration is made of. A text is the clause that it splits into. -/
inductive Step where
  | clause (c : Clause)
  | path (path : String)

namespace Step

def rule? (p : Personalities) : Step → Option Rule
  | clause c => c.rule? p
  | path _ => none

theorem rule?_clause (p : Personalities) (c : Clause) :
    (clause c).rule? p = c.kind?.bind fun k => (c.rule k p).toOption := rfl

def path? : Step → Option String
  | clause _ => none
  | path q => some q

def request : Step → Request
  | clause c => .clause c
  | path q => .path q

end Step

def rulesOf (p : Personalities) (steps : List Step) : List Rule := steps.filterMap (·.rule? p)

def pathsOf (steps : List Step) : List String := steps.filterMap Step.path?

namespace Builder

def take (b : Builder) : Step → Builder
  | .clause c => (b.apply c).state
  | .path q => b.tracePath q

def takeAll (b : Builder) (steps : List Step) : Builder := steps.foldl take b

/-- Every clause is accepted where it stands. -/
def Accepts : Builder → List Step → Prop
  | _, [] => True
  | b, .clause c :: rest => (b.apply c).result = .ok () ∧ Accepts (b.take (.clause c)) rest
  | b, .path q :: rest => Accepts (b.take (.path q)) rest

theorem takeAll_append (b : Builder) (steps more : List Step) :
    b.takeAll (steps ++ more) = (b.takeAll steps).takeAll more := List.foldl_append

theorem takeAll_eq_serveAll (b : Builder) (steps : List Step) : b.takeAll steps = b.serveAll (steps.map Step.request) := by
  have each : take = fun b step => serve b step.request := by
    funext b step
    cases step <;> rfl
  unfold takeAll serveAll
  rw [List.foldl_map, each]

theorem take_cases (b : Builder) (step : Step) :
    (∃ r, step.rule? b.personalities = some r ∧ step.path? = none ∧ b.take step = b.enter r) ∨
    (∃ q, step.rule? b.personalities = none ∧ step.path? = some q ∧ b.take step = b.tracePath q) ∨
    (∃ signals, step.rule? b.personalities = none ∧ step.path? = none ∧ b.take step = { b with signals }) := by
  cases step with
  | path q => exact .inr (.inl ⟨q, rfl, rfl, rfl⟩)
  | clause c =>
    obtain ⟨r, rule, state⟩ | ⟨signals, refused, state⟩ := b.apply_cases c
    · exact .inl ⟨r, rule, rfl, state⟩
    · exact .inr (.inr ⟨signals, refused, rfl, state⟩)

theorem take_of_rule {b : Builder} {step : Step} {r : Rule} (rule : step.rule? b.personalities = some r) :
    b.take step = b.enter r := by
  obtain ⟨r', rule', -, taken⟩ | ⟨q, rule', -⟩ | ⟨signals, rule', -⟩ := b.take_cases step <;> rw [rule] at rule' <;>
    cases rule'
  exact taken

theorem take_of_path {b : Builder} {step : Step} {q : String} (path : step.path? = some q) :
    b.take step = b.tracePath q := by
  cases step with
  | clause c => cases path
  | path q' =>
    cases path
    rfl

theorem take_of_idle {b : Builder} {step : Step} (rule : step.rule? b.personalities = none) (path : step.path? = none) :
    ∃ signals, b.take step = { b with signals } := by
  obtain ⟨r, rule', -⟩ | ⟨q, -, path', -⟩ | ⟨signals, -, -, taken⟩ := b.take_cases step
  · rw [rule] at rule'
    cases rule'
  · rw [path] at path'
    cases path'
  · exact ⟨signals, taken⟩

theorem registered_takeAll (p : Personalities) (steps : List Step) :
    Registered p (rulesOf p steps) ((Builder.new p).takeAll steps) ∧
      ((Builder.new p).takeAll steps).paths = (pathsOf steps).foldl PathSet.select .empty := by
  have grants : (steps.map Step.request).filterMap (·.grant? p) = (rulesOf p steps).map .rule := by
    unfold rulesOf
    rw [List.filterMap_map, List.map_filterMap]
    refine List.filterMap_congr fun step _ => ?_
    cases step <;> rfl
  have paths : (steps.map Step.request).filterMap Request.path? = pathsOf steps := by
    unfold pathsOf
    rw [List.filterMap_map]
    refine List.filterMap_congr fun step _ => ?_
    cases step <;> rfl
  have run := (granted_new p).serveAll (steps.map Step.request)
  rwa [List.nil_append, grants, paths, ← takeAll_eq_serveAll] at run

theorem take_personalities (b : Builder) (step : Step) : (b.take step).personalities = b.personalities := by
  obtain ⟨r, -, -, taken⟩ | ⟨_, -, -, taken⟩ | ⟨_, -, -, taken⟩ := b.take_cases step <;> rw [taken]
  · exact b.onAction_personalities r.kind _
  · rfl

theorem takeAll_personalities (b : Builder) (steps : List Step) : (b.takeAll steps).personalities = b.personalities := by
  induction steps generalizing b with
  | nil => rfl
  | cons step rest ih => exact (ih (b.take step)).trans (b.take_personalities step)

/-! ## Accepted runs -/

theorem rule_of_accepts {b : Builder} {steps : List Step} (accepted : b.Accepts steps) {c : Clause}
    (given : .clause c ∈ steps) {k : ActionKind} (kind : c.kind? = some k) :
    ∃ r, c.rule k b.personalities = .ok r := by
  induction steps generalizing b with
  | nil => cases given
  | cons step rest ih =>
    rcases List.mem_cons.mp given with rfl | later
    · have entered := b.apply_action c ((c.kind?_eq_some_iff k).mp kind)
      cases rule : c.rule k b.personalities with
      | ok r => exact ⟨r, rfl⟩
      | error e =>
        rw [rule] at entered
        rw [Accepts, entered.1] at accepted
        cases accepted.1
    · have next : (b.take step).Accepts rest := by
        cases step with
        | clause c' => exact accepted.2
        | path q => exact accepted
      rw [← b.take_personalities step]
      exact ih next later

end Builder

theorem Clause.of_rule {c : Clause} {k : ActionKind} {p : Personalities} {r : Rule} (rule : c.rule k p = .ok r) :
    r.kind = k ∧ (Filter.parse k.filterKind c.main p .clause).1 = .ok r.filter := by
  unfold Clause.rule at rule
  split at rule
  · cases rule
  next f parsed =>
    split at rule
    · split at rule
      · cases rule
      next i _ =>
        cases rule
        exact ⟨rfl, parsed⟩
    · cases rule
      exact ⟨rfl, parsed⟩

/-! ## What clauses say -/

def Mentions (steps : List Step) (k : ActionKind) : Prop := ∃ c, .clause c ∈ steps ∧ Clause.kind? c = some k

/-- The main part of some clause for this kind of action, read as a filter on its own, is true of the call. -/
def Hits (p : Personalities) (steps : List Step) (k : ActionKind) (call : Call) : Prop :=
  ∃ c, .clause c ∈ steps ∧ Clause.kind? c = some k ∧
    ∃ f, (Filter.parse k.filterKind c.main p .clause).1 = .ok f ∧ f.holds call p = true

section Accepted

variable {p : Personalities} {steps : List Step}

theorem mem_rulesOf_iff {r : Rule} :
    r ∈ rulesOf p steps ↔ ∃ c, .clause c ∈ steps ∧ c.kind? = some r.kind ∧ c.rule r.kind p = .ok r := by
  unfold rulesOf
  rw [List.mem_filterMap]
  constructor
  · rintro ⟨step, given, read⟩
    cases step with
    | path q => cases read
    | clause c =>
      obtain ⟨k, kind, read⟩ := Option.bind_eq_some_iff.mp read
      cases rule : c.rule k p with
      | error e =>
        rw [rule] at read
        cases read
      | ok r' =>
        rw [rule] at read
        cases read
        obtain ⟨rfl, -⟩ := Clause.of_rule rule
        exact ⟨c, given, kind, rule⟩
  · rintro ⟨c, given, kind, rule⟩
    refine ⟨.clause c, given, ?_⟩
    rw [Step.rule?_clause, kind, Option.bind_some, rule]
    rfl

theorem mentions_iff (accepted : (Builder.new p).Accepts steps) (k : ActionKind) :
    Mentions steps k ↔ ∃ r ∈ rulesOf p steps, r.kind = k := by
  constructor
  · rintro ⟨c, given, kind⟩
    obtain ⟨r, (rule : c.rule k p = .ok r)⟩ := Builder.rule_of_accepts accepted given kind
    obtain ⟨rfl, -⟩ := Clause.of_rule rule
    exact ⟨r, mem_rulesOf_iff.mpr ⟨c, given, kind, rule⟩, rfl⟩
  · rintro ⟨r, mem, rfl⟩
    obtain ⟨c, given, kind, -⟩ := mem_rulesOf_iff.mp mem
    exact ⟨c, given, kind⟩

theorem hits_iff (accepted : (Builder.new p).Accepts steps) (k : ActionKind) (call : Call) :
    Hits p steps k call ↔ ∃ r ∈ rulesOf p steps, r.kind = k ∧ r.filter.holds call p = true := by
  constructor
  · rintro ⟨c, given, kind, f, parsed, holds⟩
    obtain ⟨r, (rule : c.rule k p = .ok r)⟩ := Builder.rule_of_accepts accepted given kind
    obtain ⟨rfl, own⟩ := Clause.of_rule rule
    rw [own] at parsed
    cases parsed
    exact ⟨r, mem_rulesOf_iff.mpr ⟨c, given, kind, rule⟩, rfl, holds⟩
  · rintro ⟨r, mem, rfl, holds⟩
    obtain ⟨c, given, kind, rule⟩ := mem_rulesOf_iff.mp mem
    exact ⟨c, given, kind, r.filter, (Clause.of_rule rule).2, holds⟩

end Accepted

/-! ## Configurations read clause by clause -/

namespace Config

/-- What becomes of a text that is read as a clause, whatever was configured before. -/
def verdict (p : Personalities) (text : String) : Except ClauseError Unit := (Clause.split text).verdict p

theorem qualify_result (b : Builder) (text : String) : (b.qualify text).result = verdict b.personalities text :=
  b.apply_result (.split text)

/-- The steps of a run that reads some texts. -/
def clauseSteps (texts : List String) : List Step := texts.map fun text => .clause (.split text)

theorem qualifyAll_of_accepted {b : Builder} {texts : List String}
    (accepted : ∀ text ∈ texts, verdict b.personalities text = .ok ()) :
    (qualifyAll b texts).result = .ok () ∧ (qualifyAll b texts).state = b.takeAll (clauseSteps texts) := by
  induction texts generalizing b with
  | nil => exact ⟨rfl, rfl⟩
  | cons text rest ih =>
    have first : (b.qualify text).result = .ok () := (qualify_result b text).trans (accepted text List.mem_cons_self)
    have same : (b.qualify text).state.personalities = b.personalities :=
      b.take_personalities (.clause (.split text))
    have later := ih (b := (b.qualify text).state) fun t mem => same ▸ accepted t (List.mem_cons_of_mem text mem)
    unfold qualifyAll
    simp only [first]
    exact later

theorem qualifyAll_of_refused {b : Builder} {before after : List String} {text : String} {e : ClauseError}
    (accepted : ∀ t ∈ before, verdict b.personalities t = .ok ()) (refused : verdict b.personalities text = .error e) :
    (qualifyAll b (before ++ text :: after)).result = .error e := by
  induction before generalizing b with
  | nil =>
    have first : (b.qualify text).result = .error e := (qualify_result b text).trans refused
    rw [List.nil_append]
    unfold qualifyAll
    simp only [first]
  | cons t rest ih =>
    have first : (b.qualify t).result = .ok () := (qualify_result b t).trans (accepted t List.mem_cons_self)
    have same : (b.qualify t).state.personalities = b.personalities := b.take_personalities (.clause (.split t))
    rw [List.cons_append]
    unfold qualifyAll
    simp only [first]
    exact ih (fun u mem => same ▸ accepted u (List.mem_cons_of_mem t mem)) (same ▸ refused)

variable {c : Config} {p : Personalities}

theorem foldl_tracePath (b : Builder) (paths : List String) :
    paths.foldl Builder.tracePath b = b.takeAll (paths.map .path) := by
  unfold Builder.takeAll
  rw [List.foldl_map]
  rfl

theorem build_of_accepted (accepted : ∀ text ∈ c.expressions, verdict p text = .ok ()) :
    (c.build p).1 = .ok ((Builder.new p).takeAll (clauseSteps c.expressions ++ c.paths.map .path)).finish.1 := by
  obtain ⟨result, state⟩ := qualifyAll_of_accepted (b := .new p) accepted
  unfold build
  simp only [result, state, foldl_tracePath]
  unfold Builder.takeAll
  rw [List.foldl_append]

theorem build_of_refused {before after : List String} {text : String} {e : ClauseError}
    (split : c.expressions = before ++ text :: after) (accepted : ∀ t ∈ before, verdict p t = .ok ())
    (refused : verdict p text = .error e) : (c.build p).1 = .error e := by
  have result : (qualifyAll (.new p) (before ++ text :: after)).result = .error e :=
    qualifyAll_of_refused accepted refused
  unfold build
  simp only [split, result]

end Config

end SyscallFilter
