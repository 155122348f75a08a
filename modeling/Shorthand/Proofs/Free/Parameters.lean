/-
This file shows that the parameters of a bare shorthand and the resolution of its names agree.

The free names that can become parameters do, and nothing else is bound around the body. So
what is left to the surroundings are the other free names, and the shorthand is refused for one of
them unless each is a global name that is only read.
-/

import Mathlib
import Shorthand.Proofs.Free.Layout
import Shorthand.Proofs.Free.Places
import Shorthand.Proofs.Lexical.Resolution
import Shorthand.Call

namespace Shorthand

/-! ### Bare shorthands -/

/-- A name is used at a place in a body, and neither the body nor a function on the way there binds
it. -/
def Body.FreeAt (body : Body) (use : Use) (place : List Nat) : Prop :=
  (Part.ofBody body).FreeAt use place ∧ ¬(Part.ofBody body).Declares use.name

/-- Only bare bodies have a bare form. -/
theorem Form.ofTokens_bare {code : String} {statementsAllowed : Bool} {tokens : List Token}
    {definition : Definition}
    (isBare : Form.ofTokens code statementsAllowed tokens = .ok (.bare definition)) :
    Definition.parseBare code statementsAllowed tokens = .ok definition := by
  have reading := Form.ofTokens_readAs code statementsAllowed tokens
  rw [isBare] at reading
  generalize same : (.ok (.bare definition) : Except CompileError Form) = result at reading
  cases reading with
  | bare =>
    obtain ⟨found, read, isFound⟩ := except_map_eq_ok.mp same.symm
    cases isFound
    exact read
  | combinator => cases same
  | _ =>
    obtain ⟨_, _, isOther⟩ := except_map_eq_ok.mp same.symm
    cases isOther

/-- A bare shorthand is the body that its tokens are read as, with free names as parameters. -/
theorem Form.parse_bare {code : String} {statementsAllowed : Bool} {definition : Definition}
    (isBare : Form.parse code statementsAllowed = .ok (.bare definition)) :
    ∃ tokens statements body, Token.scan code = .ok tokens ∧
      Body.parse code statements tokens = .ok body ∧
      definition = ⟨if (Definition.mk [] body code).freeNames.contains "_" then ["_"]
        else (Definition.mk [] body code).freeNames, body, code⟩ := by
  obtain ⟨tokens, scanned, form⟩ := except_bind_eq_ok.mp isBare
  obtain ⟨found, scan, same⟩ := except_bind_eq_ok.mp scanned
  have found_eq : found = tokens := by
    split at same
    · cases same
    · exact Except.ok.inj same
  obtain ⟨body, parsed, same⟩ := except_bind_eq_ok.mp (Form.ofTokens_bare form)
  exact ⟨tokens, _, body, found_eq ▸ scan, parsed, (Except.ok.inj same).symm⟩

/-! ### What the surroundings have -/

/-- A use that the surroundings have a value for. -/
def Use.IsGlobal (use : Use) : Prop := use = .read "Math" ∨ use = .read "Date"

theorem newGlobal?_eq_none {heap : Heap} {name : String} :
    heap.newGlobal? name = none ↔ ¬(Use.read name).IsGlobal := by
  rw [Use.IsGlobal, Use.read.injEq, Use.read.injEq, not_or, Heap.newGlobal?]
  by_cases isMath : name = "Math"
  · rw [if_pos isMath]
    exact iff_of_false (by simp) fun neither => neither.1 isMath
  · rw [if_neg isMath]
    by_cases isDate : name = "Date"
    · rw [if_pos isDate]
      exact iff_of_false (by simp) fun neither => neither.2 isDate
    · rw [if_neg isDate]
      exact iff_of_true rfl ⟨isMath, isDate⟩

/-- The surroundings have values for all uses, or they refuse one that they have no value for. -/
theorem supply_cases (code : String) (uses : List Use) (heap : Heap) :
    (∀ use ∈ uses, use.IsGlobal) ∧ (∃ supplied, supply code uses heap = .ok supplied) ∨
      ∃ use ∈ uses, ¬use.IsGlobal ∧
        supply code uses heap = .error (undefinedName code use.name) := by
  induction uses generalizing heap with
  | nil => exact .inl ⟨fun _ member => absurd member List.not_mem_nil, _, rfl⟩
  | cons use rest inductionHypothesis =>
    cases use with
    | assign name =>
      refine .inr ⟨.assign name, List.mem_cons_self, ?_, rfl⟩
      rintro (same | same) <;> cases same
    | read name =>
      cases made : heap.newGlobal? name with
      | none =>
        refine .inr ⟨.read name, List.mem_cons_self, newGlobal?_eq_none.mp made, ?_⟩
        simp only [supply, made]
        rfl
      | some pair =>
        obtain ⟨value, after⟩ := pair
        have isGlobal : (Use.read name).IsGlobal := by
          by_contra notGlobal
          rw [newGlobal?_eq_none.mpr notGlobal] at made
          cases made
        rcases inductionHypothesis after with ⟨globals, ⟨values, final⟩, supplied⟩ |
          ⟨use, member, notGlobal, refused⟩
        · refine .inl ⟨List.forall_mem_cons.mpr ⟨isGlobal, globals⟩, (value :: values, final), ?_⟩
          simp only [supply, made, supplied]
          rfl
        · refine .inr ⟨use, List.mem_cons_of_mem _ member, notGlobal, ?_⟩
          simp only [supply, made, refused]
          rfl

/-- A function that stands alone is made, or refused for a name that its surroundings do not
have. -/
theorem Definition.compile_cases (definition : Definition) (world : World SlotClosure) :
    (∀ use ∈ definition.uses, use.IsGlobal) ∧
        (∃ function after, definition.compile world = (.value function, after)) ∨
      ∃ use ∈ definition.uses, ¬use.IsGlobal ∧ definition.compile world =
        (.failure (.compile (undefinedName definition.label use.name)), world) := by
  have resolved := definition.resolves world.heap
  rcases supply_cases definition.label definition.uses world.heap with
    ⟨globals, ⟨values, after⟩, supplied⟩ | ⟨use, member, notGlobal, refused⟩
  · rw [supplied] at resolved
    obtain ⟨routine, same, _⟩ := resolved
    refine .inl ⟨globals, ?_⟩
    rw [Definition.compile]
    simp only [same]
    exact ⟨_, _, rfl⟩
  · rw [refused] at resolved
    refine .inr ⟨use, member, notGlobal, ?_⟩
    rw [Definition.compile]
    simp only [resolved]

/-! ### Free names of bodies -/

/-- A free name that can become a parameter. -/
def Body.ParameterAt (body : Body) (place : List Nat) (name : String) : Prop :=
  isParameterName name = true ∧ ∃ use : Use, use.name = name ∧ body.FreeAt use place

theorem Body.namedAt_iff {body : Body} {place : List Nat} {name : String} :
    (Part.ofBody body).NamedAt body.declaredNames place name ↔ body.ParameterAt place name := by
  constructor
  · rintro ⟨isParameter, notDeclared, use, rfl, free⟩
    exact ⟨isParameter, use, rfl, free, fun declares => notDeclared declares.mem⟩
  · rintro ⟨isParameter, use, rfl, free, notDeclared⟩
    exact ⟨isParameter, fun member => notDeclared (Part.declares_iff.mpr member), use, rfl, free⟩

/-- Names are the free names of a body that can become parameters, each once and in the order of
their first places. -/
structure Body.HasParameters (body : Body) (parameters : List String) : Prop where
  nodup : parameters.Nodup
  mem_iff : ∀ name, name ∈ parameters ↔ ∃ place, body.ParameterAt place name
  ascending : parameters.Pairwise fun first second =>
    ∃ place, body.ParameterAt place first ∧ ∀ later, body.ParameterAt later second → place < later

theorem freeNames_hasParameters (body : Body) (label : String) :
    body.HasParameters (Definition.mk [] body label).freeNames := by
  obtain ⟨listed, lists, names⟩ := (Part.ofBody body).occurrences_listed body.declaredNames
  have listed_eq : (Definition.mk [] body label).freeNames = (listed.map Prod.snd).eraseDups := by
    rw [names]
    rfl
  have parameters : Lists body.ParameterAt listed :=
    ⟨lists.ascending, fun place name => by rw [lists.mem_iff, Body.namedAt_iff]⟩
  rw [listed_eq]
  refine ⟨nodup_eraseDups _, fun name => ?_, parameters.eraseDups_ascending⟩
  rw [List.mem_eraseDups, List.mem_map]
  constructor
  · rintro ⟨⟨place, other⟩, member, rfl⟩
    exact ⟨place, (parameters.mem_iff place other).mp member⟩
  · rintro ⟨place, parameter⟩
    exact ⟨(place, name), (parameters.mem_iff place name).mpr parameter, rfl⟩

theorem Definition.mem_uses {definition : Definition} {use : Use} :
    use ∈ definition.uses ↔ use.name ∉ definition.parameters ∧
      ∃ place, definition.body.FreeAt use place := by
  have inBody : use ∈ definition.uses ↔
      use.name ∉ ownNames definition.parameters definition.body ∧
        ∃ place, (Part.ofBody definition.body).FreeAt use place :=
    @Part.mem_uses use (ownNames definition.parameters definition.body) (.ofBody definition.body)
  rw [inBody, mem_ownNames, not_or]
  constructor
  · rintro ⟨⟨noParameter, notDeclared⟩, place, free⟩
    exact ⟨noParameter, place, free, fun declares => notDeclared declares.mem⟩
  · rintro ⟨noParameter, place, free, notDeclared⟩
    exact ⟨⟨noParameter, fun member => notDeclared (Part.declares_iff.mpr member)⟩, place, free⟩

/-- What a function with its free names as parameters leaves to its surroundings are the other free
names. -/
theorem Body.HasParameters.mem_uses {body : Body} {parameters : List String}
    (has : body.HasParameters parameters) (label : String) (use : Use) :
    use ∈ (Definition.mk parameters body label).uses ↔
      isParameterName use.name = false ∧ ∃ place, body.FreeAt use place := by
  rw [Definition.mem_uses, has.mem_iff, ← Bool.not_eq_true]
  constructor
  · rintro ⟨noParameter, place, isFree⟩
    exact ⟨fun isName => noParameter ⟨place, isName, use, rfl, isFree⟩, place, isFree⟩
  · rintro ⟨noName, place, isFree⟩
    exact ⟨fun ⟨_, isName, _⟩ => noName isName, place, isFree⟩

/-! ### Bare shorthands and their parameters -/

/-- The names that are free in a body laid out in tokens stand at positions there. -/
theorem Body.standing_of_laidOut {body : Body} {tokens : List Token}
    (laidOut : LaidOut [.ofBody body] tokens) :
    ∃ position, Standing body.FreeAt tokens position := by
  obtain ⟨position, standing⟩ := laidOut.standing
  refine ⟨fun place => position (0 :: place), ?_, ?_⟩
  · intro use place free
    exact standing.names use (0 :: place) ⟨0, _, place, rfl, rfl, free.1⟩
  · intro use place other later free otherFree smaller
    exact standing.ascending use (0 :: place) other (0 :: later) ⟨0, _, place, rfl, rfl, free.1⟩
      ⟨0, _, later, rfl, rfl, otherFree.1⟩ (List.cons_lt_cons_self.mpr smaller)

/-- A body that has been read has its free names at positions in the tokens. -/
theorem Body.positions_of_parse {code : String} {statements : Bool} {tokens : List Token}
    {body : Body} (parsed : Body.parse code statements tokens = .ok body) :
    ∃ position, Positions body.FreeAt tokens position := by
  obtain ⟨position, standing⟩ := Body.standing_of_laidOut (Body.laidOut_of_parse parsed)
  exact ⟨position, standing.positions⟩

/-- The parameters of a bare shorthand without a free underscore are the free names that begin with
a lowercase letter or an underscore, each once and in the order of their first places, which is the
order in the source. It becomes a function just if every other free name is a global name and
nowhere assigned to. Otherwise it is refused for another free name that is not so, as a name that
is not defined. -/
theorem implicit_parameters_agree {code : String} {statementsAllowed : Bool}
    {definition : Definition}
    (isBare : Form.parse code statementsAllowed = .ok (.bare definition))
    (noUnderscore : ∀ use place, definition.body.FreeAt use place → use.name ≠ "_") :
    definition.body.HasParameters definition.parameters ∧
    (∃ tokens position, Token.scan code = .ok tokens ∧
      Positions definition.body.FreeAt tokens position) ∧
    ∀ world : World SlotClosure,
      ((∃ function after, machine.compile code statementsAllowed world = (.value function, after)) ↔
        ∀ use place, definition.body.FreeAt use place → isParameterName use.name = false →
          use.IsGlobal) ∧
      ((∃ function after, machine.compile code statementsAllowed world = (.value function, after)) ∨
        ∃ use place, definition.body.FreeAt use place ∧ isParameterName use.name = false ∧
          ¬use.IsGlobal ∧ machine.compile code statementsAllowed world =
            (.failure (.compile (undefinedName code use.name)), world)) := by
  obtain ⟨tokens, statements, body, scanned, parsed, rfl⟩ := Form.parse_bare isBare
  have parameters := freeNames_hasParameters body code
  generalize free_eq : (Definition.mk [] body code).freeNames = free at *
  have noneFree : free.contains "_" = false := by
    rw [List.contains_eq_mem, decide_eq_false_iff_not, parameters.mem_iff]
    rintro ⟨place, _, use, isUnderscore, isFree⟩
    exact noUnderscore use place isFree isUnderscore
  simp only [noneFree, Bool.false_eq_true, if_false] at *
  have left := parameters.mem_uses code
  refine ⟨parameters, ?_, fun world => ?_⟩
  · obtain ⟨position, positions⟩ := Body.positions_of_parse parsed
    exact ⟨tokens, position, scanned, positions⟩
  · have compiled : machine.compile code statementsAllowed world =
        (Definition.mk free body code).compile world := by
      rw [Machine.compile, isBare]
      rfl
    rw [compiled]
    rcases (Definition.mk free body code).compile_cases world with
      ⟨globals, made⟩ | ⟨use, member, notGlobal, refused⟩
    · refine ⟨iff_of_true made fun use place isFree noName => ?_, .inl made⟩
      exact globals use ((left use).mpr ⟨noName, place, isFree⟩)
    · obtain ⟨noName, place, isFree⟩ := (left use).mp member
      refine ⟨iff_of_false ?_ ?_, .inr ⟨use, place, isFree, noName, notGlobal, refused⟩⟩
      · rintro ⟨function, after, made⟩
        rw [refused] at made
        cases made
      · exact fun globals => notGlobal (globals use place isFree noName)

/-- A call with a function as an operand, whose own parameter is not free. -/
def nestedBody : Body :=
  .expression (.call (.variable "f") [.function ["a"] (.statements [
    .return (some (.binary .add (.variable "a") (.variable "b")))]) "function", .variable "Math"])

theorem nestedBody_freeAt {use : Use} {place : List Nat} (free : nestedBody.FreeAt use place) :
    use = .read "b" ∨ use = .read "Math" ∨ use = .read "f" := by
  have member : use ∈ (Part.ofBody nestedBody).uses [] :=
    Part.mem_uses.mpr ⟨List.not_mem_nil, place, free.1⟩
  have found : (Part.ofBody nestedBody).uses [] = [.read "b", .read "Math", .read "f"] := by cbv
  rw [found] at member
  simpa using member

/-- Only the names that nothing binds or provides become parameters, so the function is made. -/
theorem nestedBody_agrees :
    Form.parse "f(function(a) \x7b return a + b \x7d, Math)" true =
      .ok (.bare ⟨["f", "b"], nestedBody, "f(function(a) \x7b return a + b \x7d, Math)"⟩) ∧
    (∀ use place, nestedBody.FreeAt use place → use.name ≠ "_") ∧
    nestedBody.HasParameters ["f", "b"] ∧
    ∃ function after, machine.compile "f(function(a) \x7b return a + b \x7d, Math)" true .empty =
      (.value function, after) := by
  have isBare : Form.parse "f(function(a) \x7b return a + b \x7d, Math)" true =
      .ok (.bare ⟨["f", "b"], nestedBody, "f(function(a) \x7b return a + b \x7d, Math)"⟩) := by cbv
  have noUnderscore : ∀ use place, nestedBody.FreeAt use place → use.name ≠ "_" := by
    intro use place free
    rcases nestedBody_freeAt free with rfl | rfl | rfl <;> decide
  obtain ⟨parameters, _, compiled⟩ := implicit_parameters_agree isBare noUnderscore
  refine ⟨isBare, noUnderscore, parameters, (compiled .empty).1.mpr fun use place free noName => ?_⟩
  rcases nestedBody_freeAt free with rfl | rfl | rfl
  · exact absurd noName (by decide +kernel)
  · exact .inl rfl
  · exact absurd noName (by decide +kernel)

end Shorthand
