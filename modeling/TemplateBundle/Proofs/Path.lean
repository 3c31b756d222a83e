import TemplateBundle.Path

/-!
Contract: paths that are normal, and names put together to paths.

Owns: the pieces of a text (none holds the separator, and names put together fall apart into
themselves), the parts of a normal path, and the path to some names below another path.
-/

namespace TemplateBundle

namespace Text

variable {separator : Char} {characters : List Char}

theorem splitAtEach_ne_nil (separator : Char) (characters : List Char) :
    splitAtEach separator characters ≠ [] := by
  cases characters with
  | nil => simp [splitAtEach]
  | cons character rest =>
      unfold splitAtEach
      by_cases isSeparator : character = separator
      · simp [isSeparator]
      · rw [if_neg isSeparator]
        cases splitAtEach separator rest <;> simp

theorem splitAtEach_no_separator {piece : List Char}
    (member : piece ∈ splitAtEach separator characters) : separator ∉ piece := by
  induction characters generalizing piece with
  | nil =>
      simp only [splitAtEach, List.mem_singleton] at member
      simp [member]
  | cons character rest inductionHypothesis =>
      unfold splitAtEach at member
      by_cases isSeparator : character = separator
      · rw [if_pos isSeparator, List.mem_cons] at member
        rcases member with rfl | inRest
        · simp
        · exact inductionHypothesis inRest
      · rw [if_neg isSeparator] at member
        cases found : splitAtEach separator rest with
        | nil => exact absurd found (splitAtEach_ne_nil separator rest)
        | cons first others =>
            rw [found] at inductionHypothesis member
            simp only [List.mem_cons] at member inductionHypothesis
            rcases member with rfl | inOthers
            · have notInFirst := inductionHypothesis (.inl rfl)
              simp [notInFirst, Ne.symm isSeparator]
            · exact inductionHypothesis (.inr inOthers)

private theorem splitAtEach_append (clean : separator ∉ characters) (rest : List Char) :
    splitAtEach separator (characters ++ separator :: rest) =
      characters :: splitAtEach separator rest := by
  induction characters with
  | nil => simp [splitAtEach]
  | cons character others inductionHypothesis =>
      rw [List.mem_cons, not_or] at clean
      rw [List.cons_append, splitAtEach, if_neg (Ne.symm clean.1), inductionHypothesis clean.2]

private theorem splitAtEach_clean (clean : separator ∉ characters) :
    splitAtEach separator characters = [characters] := by
  induction characters with
  | nil => rfl
  | cons character others inductionHypothesis =>
      rw [List.mem_cons, not_or] at clean
      rw [splitAtEach, if_neg (Ne.symm clean.1), inductionHypothesis clean.2]

theorem pieces_no_separator {text piece : String} (member : piece ∈ pieces separator text) :
    separator ∉ piece.toList := by
  obtain ⟨characters, inPieces, rfl⟩ := List.mem_map.mp member
  rw [String.toList_ofList]
  exact splitAtEach_no_separator inPieces

/-- Names put together with slashes fall apart into the names. -/
theorem pieces_intercalate {names : List String} (some : names ≠ [])
    (clean : ∀ name ∈ names, '/' ∉ name.toList) :
    pieces '/' (String.intercalate "/" names) = names := by
  unfold pieces
  induction names with
  | nil => exact absurd rfl some
  | cons first rest inductionHypothesis =>
      have cleanFirst := clean first (by simp)
      cases rest with
      | nil =>
          rw [String.intercalate_singleton, splitAtEach_clean cleanFirst]
          simp
      | cons second others =>
          have tail := inductionHypothesis (by simp)
            fun name member => clean name (List.mem_cons_of_mem _ member)
          have slash : "/".toList = ['/'] := rfl
          rw [String.intercalate_cons_cons, String.toList_append, String.toList_append, slash,
            List.append_assoc, List.singleton_append, splitAtEach_append cleanFirst,
            List.map_cons, tail, String.ofList_toList]

end Text

namespace Path

/-- A part of a normal path: it is not empty, no dot, and it holds no slash. -/
def IsPart (part : String) : Prop := part ≠ "" ∧ part ≠ "." ∧ '/' ∉ part.toList

/-- A name in a directory: a part that does not lead up. -/
def IsEntryName (name : String) : Prop := IsPart name ∧ name ≠ ".."

instance (part : String) : Decidable (IsPart part) :=
  inferInstanceAs (Decidable (part ≠ "" ∧ part ≠ "." ∧ '/' ∉ part.toList))

instance (name : String) : Decidable (IsEntryName name) :=
  inferInstanceAs (Decidable (IsPart name ∧ name ≠ ".."))

/-- The path is in normal form, as every path is that is read from a text. -/
def IsNormal (path : Path) : Prop := ∀ part ∈ path.parts, IsPart part

instance (path : Path) : Decidable path.IsNormal :=
  inferInstanceAs (Decidable (∀ part ∈ path.parts, IsPart part))

theorem isPart_of_partsOf {text part : String} (member : part ∈ partsOf text) : IsPart part := by
  obtain ⟨inPieces, kept⟩ := List.mem_filter.mp member
  simp only [ne_eq, Bool.and_eq_true, decide_eq_true_eq] at kept
  exact ⟨kept.1, kept.2, Text.pieces_no_separator inPieces⟩

theorem ofString_isNormal (text : String) : (ofString text).IsNormal :=
  fun _ member => isPart_of_partsOf member

theorem parent_isNormal {path : Path} (normal : path.IsNormal) : path.parent.IsNormal :=
  fun part member => normal part (List.dropLast_subset _ member)

/-- A normal path that is written as a dot names the working directory. -/
theorem eq_here_of_toString {path : Path} (normal : path.IsNormal)
    (dot : path.toString = ".") : path = here := by
  obtain ⟨slashes, parts⟩ := path
  by_cases none : slashes = 0 ∧ parts = []
  · rw [none.1, none.2]
    rfl
  · unfold toString at dot
    rw [if_neg none] at dot
    cases slashes with
    | succ count =>
        have characters := congrArg String.toList dot
        rw [String.toList_append, String.toList_ofList, List.replicate_succ] at characters
        exact absurd (List.cons.inj characters).1 (by decide)
    | zero =>
        have some : parts ≠ [] := fun empty => none ⟨rfl, empty⟩
        have pieces := Text.pieces_intercalate some fun part member => (normal part member).2.2
        have single : String.intercalate "/" parts = "." := by simpa using dot
        rw [single] at pieces
        have isPart := normal "." (by rw [← pieces]; decide)
        exact absurd rfl isPart.2.1

/-- Parts put together with slashes fall apart into the parts. -/
theorem partsOf_intercalate {parts : List String} (some : parts ≠ [])
    (isParts : ∀ part ∈ parts, IsPart part) :
    partsOf (String.intercalate "/" parts) = parts := by
  unfold partsOf
  rw [Text.pieces_intercalate some fun part member => (isParts part member).2.2]
  rw [List.filter_eq_self]
  intro part member
  simp [(isParts part member).1, (isParts part member).2.1]

/-- Parts put together do not start with a slash. -/
theorem intercalate_starts {parts : List String} (some : parts ≠ [])
    (isParts : ∀ part ∈ parts, IsPart part) :
    ∃ character others, (String.intercalate "/" parts).toList = character :: others ∧
      character ≠ '/' := by
  obtain ⟨first, rest, rfl⟩ := List.exists_cons_of_ne_nil some
  obtain ⟨notEmpty, _, noSlash⟩ := isParts first (by simp)
  cases characters : first.toList with
  | nil => exact absurd (String.toList_eq_nil_iff.mp characters) notEmpty
  | cons character others =>
      have different : character ≠ '/' := by
        rintro rfl
        rw [characters] at noSlash
        simp at noSlash
      cases rest with
      | nil => exact ⟨character, others, by simpa using characters, different⟩
      | cons second more =>
          refine ⟨character, others ++ "/".toList ++
            (String.intercalate "/" (second :: more)).toList, ?_, different⟩
          rw [String.intercalate_cons_cons, String.toList_append, String.toList_append,
            characters]
          rfl

/-- Names put together with slashes are read as a path of these parts. -/
theorem ofString_names {names : List String} (some : names ≠ [])
    (isNames : ∀ name ∈ names, IsEntryName name) :
    ofString (String.intercalate "/" names) = ⟨0, names⟩ := by
  have isParts (name : String) (member : name ∈ names) := (isNames name member).1
  have relative : leadingSlashes (String.intercalate "/" names).toList = 0 := by
    obtain ⟨character, others, whole, different⟩ := intercalate_starts some isParts
    rw [whole]
    simp [leadingSlashes, different]
  unfold ofString
  rw [relative, partsOf_intercalate some isParts]

/-- Slashes in front of a text do not change its parts. -/
theorem partsOf_slashes (count : Nat) (text : String) :
    partsOf (String.ofList (List.replicate count '/') ++ text) = partsOf text := by
  induction count with
  | zero => simp
  | succ count inductionHypothesis =>
      unfold partsOf Text.pieces at inductionHypothesis ⊢
      rw [String.toList_append, String.toList_ofList] at inductionHypothesis ⊢
      rw [List.replicate_succ, List.cons_append, Text.splitAtEach, if_pos rfl, List.map_cons,
        List.filter_cons_of_neg (by simp)]
      exact inductionHypothesis

/-- At most two slashes are counted as they are. -/
theorem leadingSlashes_replicate {count : Nat} (few : count ≤ 2) {rest : List Char}
    (start : rest.takeWhile (· = '/') = []) :
    leadingSlashes (List.replicate count '/' ++ rest) = count := by
  have taken : (List.replicate count '/' ++ rest).takeWhile (· = '/') =
      List.replicate count '/' := by
    rw [List.takeWhile_append_of_pos (by simp), start, List.append_nil]
  unfold leadingSlashes
  rw [taken]
  match count, few with
  | 0, _ => rfl
  | 1, _ => rfl
  | 2, _ => rfl

theorem leadingSlashes_le (characters : List Char) : leadingSlashes characters ≤ 2 := by
  unfold leadingSlashes
  split <;> omega

/-- A path that was read from a text is read again from its written form. -/
theorem ofString_toString (text : String) : ofString (ofString text).toString = ofString text := by
  have normal := ofString_isNormal text
  have few : (ofString text).slashes ≤ 2 := leadingSlashes_le text.toList
  generalize ofString text = path at normal few
  have counted (body : String) (start : body.toList.takeWhile (· = '/') = []) :
      ofString (String.ofList (List.replicate path.slashes '/') ++ body) =
        ⟨path.slashes, partsOf body⟩ := by
    unfold ofString
    rw [partsOf_slashes, String.toList_append, String.toList_ofList,
      leadingSlashes_replicate few start]
  by_cases none : path.slashes = 0 ∧ path.parts = []
  · unfold toString
    rw [if_pos none]
    obtain ⟨slashes, parts⟩ := path
    obtain ⟨rfl, rfl⟩ := none
    rfl
  · unfold toString
    rw [if_neg none]
    by_cases some : path.parts = []
    · rw [some, counted _ rfl]
      exact congrArg (Path.mk path.slashes) some.symm
    · obtain ⟨character, others, whole, different⟩ := intercalate_starts some normal
      rw [counted _ (by simp [whole, different]), partsOf_intercalate some normal]

/-- The path to names below another path. -/
theorem join_names {names : List String} (base : Path) (some : names ≠ [])
    (isNames : ∀ name ∈ names, IsEntryName name) :
    base.join (String.intercalate "/" names) = ⟨base.slashes, base.parts ++ names⟩ := by
  unfold join
  rw [ofString_names some isNames]
  rfl

end Path

end TemplateBundle
