/-
This file says which arguments ask for which evaluations.

A command line asks for codes to evaluate, in their order, and for a call of a shorthand with an
input after them. How arguments are read is left to a reader. The usual one takes any text for the
value of an option that stands behind an equals sign, so it understands arguments for every list of
codes and every call.
-/

import Mathlib
import Shorthand.CommandLine.Report

namespace Shorthand.CommandLine

/-- An evaluation that a command line can ask for. -/
inductive Evaluation where
  | code (code : String)
  | call (code input : String)

namespace Evaluation

/-- The code that an evaluation is about. -/
def source : Evaluation → String
  | .code text | .call text _ => text

/-- What is done for an evaluation. -/
def action (json : Json.Library) : Evaluation → Action SlotClosure Value
  | .code text => evaluate text
  | .call text input => callWithInput json text input

/-- The report on an evaluation, if there ever is one. -/
def report? (platform : Platform) (index : ℕ) (evaluation : Evaluation) : Option Report :=
  Report.ofAction? (platform.surroundings index) evaluation.source
    (evaluation.action platform.json)

end Evaluation

/-- Codes to evaluate, and a shorthand to call with an input. -/
structure Request where
  codes : List String
  call : Option (String × String)

/-- The request for an evaluation alone. -/
def Evaluation.alone : Evaluation → Request
  | .code text => ⟨[text], none⟩
  | .call text input => ⟨[], some (text, input)⟩

namespace Request

/-- The evaluations of a request, the call last. -/
def evaluations (request : Request) : List Evaluation :=
  request.codes.map .code ++ request.call.toList.map fun pair => .call pair.1 pair.2

/-- A reader understands arguments as a request whose results are reported as documents. -/
def IsAskedBy (request : Request) (understand : ArgumentReader) (arguments : List String) : Prop :=
  ∃ settings, understand arguments = .ok settings ∧ settings.documents = true ∧
    settings.evaluations = request.codes ∧ settings.shorthand = request.call.map Prod.fst ∧
    ∀ pair ∈ request.call, settings.input = some pair.2

/-- A long option with its value in the same argument. -/
def attached (name value : String) : String := "--" ++ name ++ "=" ++ value

/-- Arguments for a request, with every value in the argument of its option. -/
def arguments (request : Request) : List String :=
  "--json" :: (request.codes.map (attached "eval") ++
    request.call.toList.flatMap fun pair => [attached "call" pair.1, attached "input" pair.2])

end Request

/-- A reader takes what stands behind an equals sign for the value of an option, whatever text it
is. -/
def TakesAttached (understand : ArgumentReader) : Prop :=
  ∀ request : Request, request.IsAskedBy understand request.arguments

/-! ### Reading arguments -/

/-- What stands behind the first equals sign is the value of an option, whatever it is. -/
theorem Argument.ofText_attached {name : String} {option : ValueOption}
    (known : longOption? name = some option) (noSign : '=' ∉ name.toList) (value : String) :
    ofText (Request.attached name value) = .option option (some value) := by
  have characters : (Request.attached name value).toList =
      '-' :: '-' :: (name.toList ++ '=' :: value.toList) := by
    simp [Request.attached]
  have others : ∀ character ∈ name.toList, decide (character ≠ '=') = true := by
    intro character member
    refine decide_eq_true ?_
    rintro rfl
    exact noSign member
  have before : (name.toList ++ '=' :: value.toList).takeWhile (· ≠ '=') = name.toList := by
    rw [List.takeWhile_append_of_pos others]
    simp
  have behind : (name.toList ++ '=' :: value.toList).dropWhile (· ≠ '=') = '=' :: value.toList := by
    rw [List.dropWhile_append_of_pos others]
    simp
  have isLong : ofText (Request.attached name value) =
      ofLong (name.toList ++ '=' :: value.toList) := by
    rw [ofText, characters]
    split
    · rename_i same
      simp at same
    · rename_i same
      rw [(List.cons.inj (List.cons.inj same).2).2]
    · rename_i notLong same
      exact absurd (List.cons.inj (List.cons.inj same).2).1.symm notLong
    · rename_i notLong _
      exact absurd rfl (notLong _)
  rw [isLong, ofLong]
  simp only [before, behind, String.ofList_toList, known, attachedToName]

namespace Settings

variable {settings : Settings}

theorem readAll_attached {name value : String} {option : ValueOption} {after : Settings}
    (known : Argument.longOption? name = some option)
    (noSign : '=' ∉ name.toList)
    (set : settings.set? option value = some after) (rest : List String) :
    settings.readAll (Request.attached name value :: rest) = after.readAll rest := by
  rw [readAll, Argument.ofText_attached known noSign]
  simp only [set]

/-- Codes are taken up one after the other. -/
theorem readAll_codes (codes rest : List String) :
    settings.readAll (codes.map (Request.attached "eval") ++ rest) =
      { settings with evaluations := settings.evaluations ++ codes }.readAll rest := by
  induction codes generalizing settings with
  | nil => simp
  | cons code codes inductionHypothesis =>
    rw [List.map_cons, List.cons_append, readAll_attached rfl (by decide) rfl, inductionHypothesis,
      List.append_assoc, List.singleton_append]

end Settings

/-- The usual reader understands arguments for every request. -/
theorem Settings.takesAttached_read : TakesAttached Settings.read := by
  rintro ⟨codes, call⟩
  have wantsDocuments (rest : List String) : Settings.empty.readAll ("--json" :: rest) =
      { Settings.empty with documents := true }.readAll rest := rfl
  cases call with
  | none =>
    refine ⟨{ Settings.empty with documents := true, evaluations := codes }, ?_, rfl, rfl, rfl,
      nofun⟩
    rw [Settings.read, Request.arguments, wantsDocuments, Settings.readAll_codes]
    rfl
  | some pair =>
    obtain ⟨code, input⟩ := pair
    refine ⟨⟨codes, some code, some input, none, none, true⟩, ?_, rfl, rfl, rfl, ?_⟩
    · rw [Settings.read, Request.arguments, wantsDocuments, Settings.readAll_codes]
      simp only [Option.toList_some, List.flatMap_cons, List.flatMap_nil, List.append_nil]
      rw [Settings.readAll_attached rfl (by decide) rfl,
        Settings.readAll_attached rfl (by decide) rfl]
      rfl
    · rintro _ ⟨⟩
      rfl

/-! ### Reports -/

theorem mapIdx_map {α β γ : Type} (step : ℕ → β → γ) (view : α → β) (items : List α) :
    (items.map view).mapIdx step = items.mapIdx fun index item => step index (view item) := by
  refine List.ext_getElem? fun index => ?_
  rw [List.getElem?_mapIdx, List.getElem?_mapIdx, List.getElem?_map, Option.map_map]
  rfl

/-- The reports on what is asked for are those on the evaluations of the request. -/
theorem Request.IsAskedBy.exists_reports {request : Request} {platform : Platform}
    {arguments : List String} (asked : request.IsAskedBy platform.understand arguments)
    (some_ : request.evaluations ≠ []) :
    ∃ settings, platform.understand arguments = .ok settings ∧ settings.documents = true ∧
      settings.isInteractive = false ∧
      settings.reports platform = request.evaluations.mapIdx (Evaluation.report? platform) := by
  obtain ⟨settings, understood, documents, codes, shorthand, inputs⟩ := asked
  refine ⟨settings, understood, documents, ?_, ?_⟩
  · rw [← Bool.not_eq_true]
    intro isInteractive
    rw [Settings.isInteractive, codes, shorthand, Bool.and_eq_true, List.isEmpty_iff,
      Option.isNone_map, Option.isNone_iff_eq_none] at isInteractive
    refine some_ ?_
    rw [Request.evaluations, isInteractive.1, isInteractive.2]
    rfl
  · rw [Settings.reports, Request.evaluations, List.mapIdx_append, mapIdx_map, codes, shorthand]
    cases called : request.call with
    | none => rfl
    | some pair =>
      rw [inputs pair called]
      simp only [List.length_map, Option.map_some, Option.toList_some, List.map_cons,
        List.map_nil, List.mapIdx_cons, List.mapIdx_nil, Nat.zero_add]
      rfl

end Shorthand.CommandLine
