import TemplateBundle.Proofs.Template.Files

/-!
Contract: file names told by base names.

Owns: the last cut of a name, the names that start with an underscore, and the law of a flat search
with one ending: the file name of a template can be told from its base name and its kind, and so no
two templates of a kind share a base name.

Does not own: what base names are used for (`Proofs.Bundle.Overwriting`).
-/

namespace TemplateBundle

theorem Text.cutAtLast?_eq {separator : Char} {text : String} {before after : List Char}
    (whole : text.toList = before ++ separator :: after) (clean : separator ∉ after) :
    cutAtLast? separator text = some (String.ofList before, String.ofList after) := by
  have passes : ∀ character ∈ after.reverse, decide (character ≠ separator) = true := by
    intro character member
    refine decide_eq_true fun same => clean ?_
    rwa [← same, ← List.mem_reverse]
  have reversed : text.toList.reverse = after.reverse ++ separator :: before.reverse := by
    rw [whole, List.reverse_append, List.reverse_cons, List.append_assoc, List.singleton_append]
  unfold cutAtLast?
  dsimp only
  rw [reversed, List.takeWhile_append_of_pos passes, List.dropWhile_append_of_pos passes]
  simp

theorem Path.name_ofString {name : String} (isName : IsEntryName name) :
    (ofString name).name = name := by
  have names : ∀ other ∈ [name], IsEntryName other := by simpa using isName
  have path := ofString_names (List.cons_ne_nil name []) names
  rw [String.intercalate_singleton] at path
  rw [path]
  rfl

/-- A name in which the pattern is found starts with an underscore. -/
theorem NotedPattern.starts_of_leadingUnderscore {name : String}
    (found : leadingUnderscore.pattern.isFoundIn name = true) :
    ∃ rest, name.toList = '_' :: rest := by
  unfold Pattern.isFoundIn at found
  obtain ⟨position, _, ends⟩ := List.any_eq_true.mp found
  by_cases atStart : position = 0
  · subst atStart
    cases characters : name.toList with
    | nil => simp [characters, leadingUnderscore, Pattern.ends, Pattern.atPlace,
        Pattern.afterCharacter, Pattern.distinct] at ends
    | cons first rest =>
        by_cases isMark : first.toNat = 95
        · exact ⟨rest, by rw [← Char.toNat_inj.mp (show first.toNat = '_'.toNat from isMark)]⟩
        · simp [characters, leadingUnderscore, Pattern.ends, Pattern.atPlace,
            Pattern.afterCharacter, Pattern.distinct, Letters.forms, isMark] at ends
  · simp [leadingUnderscore, Pattern.ends, Pattern.atPlace, atStart, Pattern.distinct] at ends

/-- A search that does not go into directories, for one ending that is a dot and characters other
than dots, where partials start with an underscore. -/
structure Options.SearchesFlat (options : Options) (tail : String) : Prop where
  direct : options.recursive = false
  dotless : '.' ∉ tail.toList
  only : ∀ extension ∈ options.extensions, extension = "." ++ tail
  marked : options.partialRegex = .leadingUnderscore

namespace Template

variable {options : Options} {tree : FileTree} {names : List String} {templates : List Template}
  {name stem tail : String}

theorem stripExtension_append (dotless : '.' ∉ tail.toList) (stem : String) :
    stripExtension (stem ++ ("." ++ tail)) = stem := by
  have whole : (stem ++ ("." ++ tail)).toList = stem.toList ++ '.' :: tail.toList := by simp
  rw [stripExtension, Text.cutAtLast?_eq whole dotless]
  exact String.ofList_toList

/-- The base name of a partial comes after an underscore. -/
theorem partialName_append (dotless : '.' ∉ tail.toList) (notEmpty : stem ≠ "")
    (marked : ∃ rest, (stem ++ ("." ++ tail)).toList = '_' :: rest) :
    "_" ++ partialName (stem ++ ("." ++ tail)) = stem := by
  obtain ⟨rest, starts⟩ := marked
  obtain ⟨first, more, characters⟩ :=
    List.exists_cons_of_ne_nil (mt String.toList_eq_nil_iff.mp notEmpty)
  rw [String.toList_append, characters, List.cons_append] at starts
  obtain ⟨rfl, _⟩ := List.cons.inj starts
  rw [partialName, stripExtension_append dotless, characters]
  apply String.toList_inj.mp
  simp [characters]

/-- The name of a file, as it is told by a base name and an ending. -/
def fileName (extension : String) (template : Template) : String :=
  (if template.isPartial then "_" else "") ++ template.baseName ++ extension

/-- The file name of a template can be told from its base name and its kind. -/
theorem fileName_ofRelative (flat : options.SearchesFlat tail) (isName : Path.IsEntryName name)
    (accepted : IsAccepted options.extensions name) (inputDir : Path) :
    (ofRelative options inputDir name).fileName ("." ++ tail) = name := by
  obtain ⟨extension, member, stem, notEmpty, rfl⟩ := accepted
  rw [flat.only extension member] at isName ⊢
  unfold fileName ofRelative
  rw [Path.name_ofString isName]
  dsimp only
  split
  · rename_i isPartial
    rw [Bool.and_eq_true, flat.marked] at isPartial
    rw [partialName_append flat.dotless notEmpty
      (NotedPattern.starts_of_leadingUnderscore isPartial.2)]
  · rw [stripExtension_append flat.dotless, String.empty_append]

theorem isAccepted_of_choice {relative : String}
    (selected : choice options tree relative = .selected) :
    IsAccepted options.extensions (Path.ofString relative).name := by
  rw [← isTemplateName_iff]
  by_contra refused
  simp [choice, refused] at selected

/-- The templates that are found are those of some of the names, in order, each of an accepted
name. -/
theorem select_sublist (found : select options tree names = .ok templates) :
    ∃ chosen : List String, chosen.Sublist names ∧
      templates = chosen.map (ofRelative options options.inputDir) ∧
      ∀ relative ∈ chosen, IsAccepted options.extensions (Path.ofString relative).name := by
  induction names generalizing templates with
  | nil =>
      obtain rfl := Except.ok.inj found
      exact ⟨[], .slnil, rfl, by simp⟩
  | cons relative rest inductionHypothesis =>
      rcases select_cons_ok found with ⟨selected, others, foundRest, rfl⟩ | ⟨_, foundRest⟩
      · obtain ⟨chosen, isSublist, rfl, accepted⟩ := inductionHypothesis foundRest
        refine ⟨relative :: chosen, isSublist.cons_cons relative, rfl, ?_⟩
        exact List.forall_mem_cons.mpr ⟨isAccepted_of_choice selected, accepted⟩
      · obtain ⟨chosen, isSublist, rfl, accepted⟩ := inductionHypothesis foundRest
        exact ⟨chosen, isSublist.cons relative, rfl, accepted⟩

/-- A flat search finds no two templates of a kind with one base name. -/
theorem discovered_baseNames (wellFormed : tree.WellFormed) (flat : options.SearchesFlat tail)
    (found : discovered options tree = .ok templates) :
    templates.Pairwise fun first second =>
      first.isPartial = second.isPartial → first.baseName ≠ second.baseName := by
  unfold discovered at found
  cases listed : tree.list options.inputDir options.recursive with
  | error fault => simp [listed] at found
  | ok names =>
      rw [listed] at found
      obtain ⟨base, _, rfl⟩ := FileTree.list_ok listed
      obtain ⟨chosen, isSublist, rfl, accepted⟩ := select_sublist found
      have once : chosen.Nodup := isSublist.nodup (sortNames_nodup
        (FileTree.listing_nodup wellFormed options.recursive base))
      have told : ∀ relative ∈ chosen,
          (ofRelative options options.inputDir relative).fileName ("." ++ tail) = relative := by
        intro relative member
        obtain ⟨names, node, named, sought⟩ :=
          FileTree.names_of_listed (mem_sortNames (isSublist.subset member))
        rw [flat.direct] at sought
        obtain ⟨name, rfl⟩ := List.length_eq_one_iff.mp sought
        obtain rfl : relative = name := by rw [named.text, String.intercalate_singleton]
        have isName := named.isNames wellFormed relative (by simp)
        have isAccepted := accepted relative member
        rw [Path.name_ofString isName] at isAccepted
        exact fileName_ofRelative flat isName isAccepted options.inputDir
      rw [List.pairwise_map]
      refine once.imp_of_mem fun inFirst inSecond different sameKind sameName => different ?_
      rw [← told _ inFirst, ← told _ inSecond, fileName, fileName, sameKind, sameName]

end Template

end TemplateBundle
