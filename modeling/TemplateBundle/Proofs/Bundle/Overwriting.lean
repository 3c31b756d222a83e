import TemplateBundle.Proofs.Bundle.Scopes
import TemplateBundle.Proofs.Namespace.Places

/-!
Contract: what one template of a bundle overwrites of another.

Owns: the places and names that statements assign and register to, the statements of a bundle as a
function of its templates, and the law that templates which are told by their kinds and base names
overwrite nothing of each other.

Does not own: which templates are told so (`Proofs.Template.BaseNames`).
-/

namespace TemplateBundle

open Text

namespace Statement

/-- The name that a template is assigned or registered by. -/
def name? : Statement → Option Value
  | .assign _ name _ => some name
  | .register _ name _ => some name
  | .registerIn _ name _ _ => some name
  | _ => none

/-- The statement registers a partial. -/
def registers : Statement → Bool
  | .register .. => true
  | .registerIn .. => true
  | _ => false

/-- The place that a template is assigned to, as it is written. -/
def assignedPlace? : Statement → Option String
  | .assign target name _ => some (place target name)
  | _ => none

/-- The name that a partial is registered under, as it is written. -/
def registeredName? : Statement → Option String
  | .register _ name _ => some (nameLiteral name)
  | .registerIn _ name _ _ => some (nameLiteral name)
  | _ => none

/-- The place that a partial is assigned to, as it is written. -/
def registeredPlace? : Statement → Option String
  | .registerIn _ name target _ => some (place target name)
  | _ => none

/-- No template is assigned to the place of another template, and no partial is registered under
the name, or assigned to the place, of another partial. -/
structure OverwritesNothing (statements : List Statement) : Prop where
  templates : (statements.filterMap assignedPlace?).Nodup
  partials : (statements.filterMap registeredName?).Nodup
  partialPlaces : (statements.filterMap registeredPlace?).Nodup

variable {statement : Statement} {text : String}

theorem isContribution_of_name {name : Value} (named : statement.name? = some name) :
    statement.isContribution = true := by
  cases statement with
  | assign => rfl
  | register => rfl
  | registerIn => rfl
  | _ => simp [name?] at named

/-! ### Names told from what is written -/

theorem name_of_nameLiteral {name other : String}
    (same : nameLiteral (.text name) = nameLiteral (.text other)) : name = other := by
  rw [nameLiteral_text, nameLiteral_text, doubleQuoted, doubleQuoted, String.ofList_inj] at same
  exact String.toList_inj.mp (Value.literal_unique .all (List.cons.inj same).2).1

/-- A place tells the name, whatever the namespaces. -/
theorem name_of_place {first second : List String} {name other : String}
    (same : place first (.text name) = place second (.text other)) : name = other := by
  have differs {target : List String} (some : target ≠ []) (name other : String) :
      place [] (.text name) ≠ place target (.text other) := by
    rw [place_eq_bracketPath some]
    intro same
    have starts := congrArg (fun text => text.toList.head?) same
    simp [place, Namespace.expression, Namespace.bracketPath_toList] at starts
  by_cases none : first = []
  · by_cases noneToo : second = []
    · subst none noneToo
      have bare := (String.append_left_inj _).mp same
      exact name_of_nameLiteral ((String.append_right_inj _).mp bare)
    · exact absurd (none ▸ same) (differs noneToo name other)
  · by_cases noneToo : second = []
    · exact absurd (noneToo ▸ same.symm) (differs none other name)
    · rw [place_eq_bracketPath none, place_eq_bracketPath noneToo,
        Namespace.bracketPath_injective.eq_iff] at same
      exact (List.cons.inj (List.append_inj' same rfl).2).1

theorem assignedPlace?_some (known : statement.assignedPlace? = some text) :
    ∃ name, statement.name? = some name ∧ statement.registers = false ∧
      ∃ target, place target name = text := by
  cases statement with
  | assign target name body => exact ⟨name, rfl, rfl, target, Option.some.inj known⟩
  | _ => simp [assignedPlace?] at known

theorem registeredName?_some (known : statement.registeredName? = some text) :
    ∃ name, statement.name? = some name ∧ statement.registers = true ∧
      nameLiteral name = text := by
  cases statement with
  | register runtime name body => exact ⟨name, rfl, rfl, Option.some.inj known⟩
  | registerIn runtime name target body => exact ⟨name, rfl, rfl, Option.some.inj known⟩
  | _ => simp [registeredName?] at known

theorem registeredPlace?_some (known : statement.registeredPlace? = some text) :
    ∃ name, statement.name? = some name ∧ statement.registers = true ∧
      ∃ target, place target name = text := by
  cases statement with
  | registerIn runtime name target body => exact ⟨name, rfl, rfl, target, Option.some.inj known⟩
  | _ => simp [registeredPlace?] at known

end Statement

namespace Bundle

open Assembling
open Statement (contributions)

variable {environment : Environment} {options : Options} {bundle after : Bundle}
  {template : Template} {name : Value} {body : String} {asked : Contribution}
  {lines : List Statement} {templates : List (Template × Compiled)} {fragments : List Fragment}

theorem plainTemplate_name? (options : Options) (body : String) :
    (plainTemplate options body).name? = none := by
  unfold plainTemplate
  split
  · rfl
  · split <;> rfl

/-- What a template asks for under a name carries that name and the kind of the template. -/
theorem name_of_contributionAs
    (asks : contributionAs environment options template name body = .ok asked) {found : Value}
    (named : asked.statement.name? = some found) :
    found = name ∧ asked.statement.registers = template.isPartial := by
  unfold contributionAs at asks
  cases isPartial : template.isPartial with
  | true =>
      rw [if_pos isPartial] at asks
      split at asks
      · obtain ⟨target, _, rfl⟩ := insideNamespace_ok asks
        exact ⟨(Option.some.inj named).symm, rfl⟩
      · cases checked : checkName name with
        | error failure => simp [checked, Except.map] at asks
        | ok _ =>
            rw [checked] at asks
            obtain rfl := Except.ok.inj asks
            exact ⟨(Option.some.inj named).symm, rfl⟩
  | false =>
      rw [if_neg (by simp [isPartial])] at asks
      split at asks
      · obtain ⟨target, _, rfl⟩ := insideNamespace_ok asks
        exact ⟨(Option.some.inj named).symm, rfl⟩
      · obtain rfl := Except.ok.inj asks
        simp [plainTemplate_name?] at named

/-- Without functions for names, a template is named by its base name. -/
theorem name_of_contribution (noName : options.processName = none)
    (noPartialName : options.processPartialName = none)
    (asks : contribution environment options template body = .ok asked) {found : Value}
    (named : asked.statement.name? = some found) :
    found = .text template.baseName ∧ asked.statement.registers = template.isPartial := by
  have known : templateName environment options template = .ok (.text template.baseName) := by
    rw [templateName, noName, noPartialName, ite_self]
  rw [contribution, known] at asks
  exact name_of_contributionAs asks named

/-- The statement that a template asks for, if it asks for one. -/
def statement? (environment : Environment) (options : Options) (made : Template × Compiled) :
    Option Statement :=
  (contribution environment options made.1 made.2.body).toOption.map Contribution.statement

theorem statement?_of_contribution {template : Template} {compiled : Compiled}
    {asked : Contribution}
    (asks : contribution environment options template compiled.body = .ok asked) :
    statement? environment options (template, compiled) = some asked.statement := by
  rw [statement?, asks]
  rfl

theorem assembleAll_contributions
    (succeeds : Assembling.effect (assembleAll environment templates) bundle =
      (.ok fragments, after)) :
    contributions (fragments.flatMap Fragment.statements) =
      templates.filterMap (statement? environment bundle.options) := by
  rw [assembleAll_ok_iff] at succeeds
  induction succeeds with
  | done bundle => rfl
  | next assembled _ later =>
      have sameOptions := (assemble_leavesTally _ _ _ _).keepsOptions assembled
      obtain ⟨asked, opens, closes, asks, _, wraps, statements⟩ := assemble_ok assembled
      obtain ⟨isOpening, isClosing⟩ := wrappers_wrap wraps
      rw [sameOptions] at later
      have own := statement?_of_contribution asks
      rw [List.flatMap_cons, Statement.contributions_append, later,
        List.filterMap_cons_some own, statements, Statement.contributions_append,
        Statement.contributions_append, Statement.contributions_wrappers isOpening,
        Statement.contributions_wrappers isClosing,
        contributions_additions (contribution_ok asks).contributes]
      rfl

theorem preamble_contributions
    (succeeds : Assembling.effect (preamble environment) bundle = (.ok lines, after)) :
    contributions lines = [] := by
  cases preamble_ok succeeds with
  | none _ => rfl
  | wrappers _ _ opens _ => exact Statement.contributions_wrappers (opening_isWrapper opens)
  | namespaced openings path target _ opens _ _ =>
      have declares : contributions (bundle.missing target) = [] :=
        missing_contributions bundle target
      rw [Statement.contributions_append, declares,
        Statement.contributions_wrappers (opening_isWrapper opens)]
      rfl

end Bundle

namespace Composition

open Statement (contributions)

variable {environment : Environment} {options : Options} {composition : Composition}
  {templates : List (Template × Compiled)}

/-- The statements of a bundle that stand for templates are those that its templates ask for, in
their order. -/
theorem contributions_eq
    (composed : Bundle.compose environment options templates = .ok composition) :
    contributions composition.statements =
      templates.filterMap (Bundle.statement? environment options) := by
  obtain ⟨begun, begins, assembled⟩ := of_compose composed
  have sameOptions := (Bundle.preamble_leavesTally environment).keepsOptions begins
  rw [statements, Statement.contributions_append, Statement.contributions_append,
    Bundle.preamble_contributions begins,
    Statement.contributions_wrappers (Bundle.ending_isWrapper _),
    Bundle.assembleAll_contributions assembled, sameOptions, List.append_nil, List.nil_append]
  rfl

/-- What tells the name of a statement is written once in a bundle whose templates of a kind are
told by their base names. -/
theorem nodup_filterMap
    (composed : Bundle.compose environment options templates = .ok composition)
    (noName : options.processName = none) (noPartialName : options.processPartialName = none)
    (distinct : templates.Pairwise fun first second =>
      first.1.isPartial = second.1.isPartial → first.1.baseName ≠ second.1.baseName)
    {key? : Statement → Option String} {kind : Bool} {written : Value → String → Prop}
    (told : ∀ {statement text}, key? statement = some text →
      ∃ name, statement.name? = some name ∧ statement.registers = kind ∧ written name text)
    (injective : ∀ {name other text}, written (.text name) text → written (.text other) text →
      name = other) : (composition.statements.filterMap key?).Nodup := by
  have onlyContributions : composition.statements.filterMap key? =
      (contributions composition.statements).filterMap key? := by
    rw [contributions, List.filterMap_filter]
    refine List.filterMap_congr fun statement _ => ?_
    cases known : key? statement with
    | none => simp
    | some text =>
        obtain ⟨name, named, _⟩ := told known
        rw [if_pos (Statement.isContribution_of_name named)]
  have ofTemplate {made : Template × Compiled} {text : String}
      (known : (Bundle.statement? environment options made).bind key? = some text) :
      made.1.isPartial = kind ∧ written (.text made.1.baseName) text := by
    obtain ⟨statement, isStatement, knownHere⟩ := Option.bind_eq_some_iff.mp known
    obtain ⟨asked, asks, rfl⟩ := Option.map_eq_some_iff.mp isStatement
    obtain ⟨name, named, sameKind, isWritten⟩ := told knownHere
    obtain ⟨rfl, registers⟩ := Bundle.name_of_contribution noName noPartialName
      (ok_of_toOption asks) named
    exact ⟨registers.symm.trans sameKind, isWritten⟩
  rw [onlyContributions, contributions_eq composed, List.filterMap_filterMap]
  refine List.Pairwise.filterMap _ ?_ distinct
  rintro first second apart text known _ knownToo rfl
  obtain ⟨ofKind, isWritten⟩ := ofTemplate known
  obtain ⟨ofKindToo, isWrittenToo⟩ := ofTemplate knownToo
  exact apart (ofKind.trans ofKindToo.symm) (injective isWritten isWrittenToo)

/-- Templates that are told by their kinds and base names overwrite nothing of each other. -/
theorem overwritesNothing
    (composed : Bundle.compose environment options templates = .ok composition)
    (noName : options.processName = none) (noPartialName : options.processPartialName = none)
    (distinct : templates.Pairwise fun first second =>
      first.1.isPartial = second.1.isPartial → first.1.baseName ≠ second.1.baseName) :
    Statement.OverwritesNothing composition.statements := by
  have tellsName {name other text : String}
      (here : Statement.nameLiteral (.text name) = text)
      (there : Statement.nameLiteral (.text other) = text) : name = other :=
    Statement.name_of_nameLiteral (here.trans there.symm)
  have placeTellsName {name other text : String}
      (here : ∃ target, Statement.place target (.text name) = text)
      (there : ∃ target, Statement.place target (.text other) = text) : name = other := by
    obtain ⟨target, here⟩ := here
    obtain ⟨targetToo, there⟩ := there
    exact Statement.name_of_place (here.trans there.symm)
  exact
    { templates := nodup_filterMap composed noName noPartialName distinct
        Statement.assignedPlace?_some placeTellsName
      partials := nodup_filterMap composed noName noPartialName distinct
        Statement.registeredName?_some tellsName
      partialPlaces := nodup_filterMap composed noName noPartialName distinct
        Statement.registeredPlace?_some placeTellsName }

end Composition

end TemplateBundle
