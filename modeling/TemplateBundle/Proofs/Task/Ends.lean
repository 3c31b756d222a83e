import TemplateBundle.Proofs.FileTree.Sparing
import TemplateBundle.Proofs.Program.Refusal
import TemplateBundle.Proofs.Task.Steps

/-!
Contract: what each part of a task may come to, whatever steps it is refused.

Owns: for each part its outcomes, each with the tree that it leaves: making the directory, opening,
filling and closing the output, reading and compiling a template.

Does not own: what the parts come to when nothing is refused (`Proofs.Task.Account`), and the whole
task (`Proofs.Task.Abort`).
-/

namespace TemplateBundle

/-! ### The output file -/

namespace OutputStream

variable {tree left : FileTree} {path : Path} {separator text : String} {pieces : List String}
  {location : Location} {executable : Bool} {result : Except Failure Unit × OutputStream}

/-- A file that is not started is left as it was. -/
theorem start_mayEnd (ends : ((ofPath path separator).start text).MayEnd tree result left) :
    (∃ location executable, tree.WritesTo path location executable ∧
      result = (.ok (), after path separator [text]) ∧
      left = tree.holding location executable text) ∨
    ∃ fault, result = (.error (Failure.ofFile (.write path) fault), ofPath path separator) ∧
      left = tree := by
  rcases Program.effect_of_mayEnd_step (by simp) (by rintro (fault | ⟨⟩) _ <;> exact trivial)
      ends with performed | ⟨fault, refused⟩
  · rcases start_effect tree path separator text with
      ⟨location, executable, writes, _, started⟩ | ⟨fault, _, started⟩
    · obtain ⟨rfl, rfl⟩ := Prod.mk.inj (started.symm.trans performed)
      exact .inl ⟨location, executable, writes, rfl, rfl⟩
    · obtain ⟨rfl, rfl⟩ := Prod.mk.inj (started.symm.trans performed)
      exact .inr ⟨fault, rfl, rfl⟩
  · obtain ⟨rfl, rfl⟩ := Prod.mk.inj refused
    exact .inr ⟨fault, rfl, rfl⟩

/-- A piece is added, or the file is left as it was. -/
theorem append_mayEnd (writes : tree.WritesTo path location executable)
    (ends : ((after path separator pieces).append text).MayEnd
      (tree.holding location executable (joined separator pieces)) result left) :
    (result = (.ok (), after path separator (pieces ++ [text])) ∧
      left = tree.holding location executable (joined separator (pieces ++ [text]))) ∨
    ∃ fault, result = (.error (Failure.ofFile (.write path) fault), after path separator pieces) ∧
      left = tree.holding location executable (joined separator pieces) := by
  have appends := append_effect writes separator pieces text
  have added (performed : ((after path separator pieces).append text).effect
      (tree.holding location executable (joined separator pieces)) = (result, left)) :=
    Prod.mk.inj (performed.symm.trans appends)
  unfold OutputStream.append at ends added
  by_cases filled : text = ""
  · rw [if_pos filled] at ends added
    exact .inl (added (Program.effect_of_mayEnd trivial ends))
  · rw [if_neg filled] at ends added
    rcases Program.effect_of_mayEnd_step (by simp) (by rintro (fault | ⟨⟩) _ <;> exact trivial)
        ends with performed | ⟨fault, refused⟩
    · exact .inl (added performed)
    · obtain ⟨rfl, rfl⟩ := Prod.mk.inj refused
      exact .inr ⟨fault, rfl, rfl⟩

/-- A file that is not closed holds the pieces before the last, or all without the line feed. -/
theorem close_mayEnd (writes : tree.WritesTo path location executable)
    (ends : ((after path separator pieces).close text).MayEnd
      (tree.holding location executable (joined separator pieces)) result left) :
    (∃ stream, result = (.ok (), stream)) ∨
    ∃ fault stream, result = (.error (Failure.ofFile (.write path) fault), stream) ∧
      ∃ more, more <+: [text] ∧
        left = tree.holding location executable (joined separator (pieces ++ more)) := by
  unfold OutputStream.close at ends
  obtain ⟨⟨reply, stream⟩, changed, appends, rest⟩ := Program.mayEnd_bind.mp ends
  rcases append_mayEnd writes appends with ⟨ends, rfl⟩ | ⟨fault, ends, rfl⟩
  · obtain ⟨rfl, rfl⟩ := Prod.mk.inj ends
    dsimp only at rest
    split at rest
    · rcases Program.effect_of_mayEnd_step (by simp) (by rintro (fault | ⟨⟩) _ <;> exact trivial)
        rest with performed | ⟨fault, refused⟩
      · rw [Program.effect_bind, Program.effect_perform] at performed
        simp only [after, FileTree.perform, writes.append, Program.effect_pure] at performed
        exact .inl ⟨_, (congrArg Prod.fst performed).symm⟩
      · obtain ⟨rfl, rfl⟩ := Prod.mk.inj refused
        exact .inr ⟨fault, _, rfl, [text], List.prefix_refl _, rfl⟩
    · exact .inl ⟨_, (Program.mayEnd_pure.mp rest).1⟩
  · obtain ⟨rfl, rfl⟩ := Prod.mk.inj ends
    obtain ⟨rfl, rfl⟩ := Program.mayEnd_pure.mp rest
    exact .inr ⟨fault, _, rfl, [], List.nil_prefix, by rw [List.append_nil]⟩

end OutputStream

/-! ### The parts of a task -/

theorem Template.classify_looks (options : Options) (inputDir : Path) (names : List String) :
    Work.Looks (Template.classify options inputDir names) := by
  induction names with
  | nil => exact trivial
  | cons relative rest inductionHypothesis =>
      unfold Template.classify
      split
      · refine Work.looks_bind (Work.looks_lift ⟨trivial, fun _ => trivial⟩) fun kind => ?_
        split
        · exact Work.looks_bind inductionHypothesis fun _ => trivial
        · exact trivial
        · exact Work.looks_bind trivial fun _ => inductionHypothesis
      · exact inductionHypothesis

theorem Template.discover_looks (options : Options) : Work.Looks (Template.discover options) := by
  unfold Template.discover
  refine Work.looks_bind (Work.looks_lift ⟨trivial, fun _ => trivial⟩) ?_
  rintro (fault | names)
  · exact trivial
  · exact Work.looks_bind (Template.classify_looks options _ _) fun _ => trivial

namespace Task

open OutputStream (joined after)

variable {environment : Environment} {options : Options} {tree base left : FileTree}
  {path : Path} {location : Location} {executable : Bool} {bundle : Bundle}
  {pieces : List String} {failure : Failure}

/-- Whatever becomes of the directory, directories on the way are all that is new. -/
theorem ensureDirectory_mayEnd {outcome : Except Failure Unit}
    (ends : Work.MayEnd (ensureDirectory path) tree outcome left) :
    tree.Spares path none left := by
  unfold ensureDirectory at ends
  by_cases here : path.toString = "."
  · rw [if_pos here] at ends
    obtain ⟨_, rfl⟩ := Work.mayEnd_pure.mp ends
    exact .refl _ path
  · rw [if_neg here] at ends
    have made {reply : Except FileFault Unit} {changed : FileTree}
        (answers : tree.Answers (.makeDirectories path) reply changed) :
        tree.Spares path none changed := by
      cases answers with
      | performed => exact FileTree.makeDirectories_spares tree (List.prefix_refl _)
      | refused => exact .refl tree path
      | halted fault inside => exact FileTree.makeDirectories_spares tree inside
    obtain ⟨reply, changed, answers, rest⟩ := Work.mayEnd_lift_bind.mp ends
    have spares := made (Program.mayEnd_perform.mp answers)
    rcases reply with fault | ⟨⟩
    · obtain ⟨_, rfl⟩ := Work.mayEnd_throw.mp rest
      exact spares
    · obtain ⟨_, rfl⟩ := Work.mayEnd_pure.mp rest
      exact spares

theorem written_mayEnd {α : Type} {result : Except Failure Unit × OutputStream}
    {following : OutputStream → Work α} {outcome : Except Failure α}
    (ends : Work.MayEnd (written result >>= following) tree outcome left) :
    match result with
    | (.ok (), stream) => Work.MayEnd (following stream) tree outcome left
    | (.error failure, _) => outcome = .error failure ∧ left = tree := by
  have goesOn := Work.mayEnd_bind_still (written_follows result tree) ends
  rw [written_effect] at goesOn
  rcases result with ⟨failure | ⟨⟩, stream⟩
  · exact goesOn
  · exact goesOn

theorem readText_mayEnd {found : Except ReadFault String}
    (ends : (readText path).MayEnd tree found left) :
    left = tree ∧
      ((∃ fault, found = .error (.file fault)) ∨ (readText path).effect tree = (found, tree)) := by
  have reads := readText_effect path tree
  unfold readText at ends
  rcases Program.effect_of_mayEnd_step (by simp) (by
      rintro (fault | bytes) _
      · exact trivial
      · dsimp only
        split <;> exact trivial) ends with performed | ⟨fault, refused⟩
  · change (readText path).effect tree = (found, left) at performed
    obtain ⟨rfl, rfl⟩ := Prod.mk.inj (reads.symm.trans performed)
    exact ⟨rfl, .inr reads⟩
  · obtain ⟨rfl, rfl⟩ := Prod.mk.inj refused
    exact ⟨rfl, .inl ⟨fault, rfl⟩⟩

/-- A template is read as it stands, or skipped because it may not be read. -/
theorem compiled?_mayEnd {template : Template} {outcome : Except Failure (Option Compiled)}
    (ends : Work.MayEnd (compiled? environment options template) tree outcome left) :
    (outcome = .ok none ∨ outcome = attempt environment options tree template) ∧ left = tree := by
  have performs := compiled?_effect environment options template tree
  unfold compiled? at ends performs
  obtain ⟨source, changed, reads, rest⟩ := Work.mayEnd_lift_bind.mp ends
  obtain ⟨rfl, ⟨fault, rfl⟩ | performed⟩ := readText_mayEnd reads
  · dsimp only at rest
    have skips := Work.mayEnd_log_bind.mp rest
    obtain ⟨rfl, rfl⟩ := Work.mayEnd_pure.mp skips
    exact ⟨.inl rfl, rfl⟩
  · rw [Work.effect_bind, Work.effect_lift, performed] at performs
    -- After the text is read no step is taken.
    have ended := Work.effect_of_mayEnd ?_ rest
    · obtain ⟨rfl, rfl⟩ := Prod.mk.inj (ended.symm.trans performs)
      exact ⟨.inr rfl, rfl⟩
    · rcases source with fault | text
      · exact trivial
      · refine Work.follows_bind (Work.follows_lift (toWork_follows _ _)) ?_
        rintro (failure | compiled) changed _
        · cases failure <;> exact trivial
        · exact trivial

/-! ### Templates -/

/-- Attempts of a run, of which each may be refused to read its template. What an attempt reads
depends on the fragments that are written by then. -/
def Tried (environment : Environment) (options : Options) (bundle : Bundle)
    (holds : List Fragment → FileTree) (attempted : List Attempt) : Prop :=
  ∀ earlier made later, attempted = earlier ++ made :: later →
    made.2 = .ok none ∨ made.2 = attempt environment options
      (holds (Bundle.progress environment bundle earlier).fragments) made.1

/-- The fragments of a bundle that are written to a file: all of them, or those before one that
is refused. -/
inductive Written (path : Path) (progress : Progress) :
    List Fragment → Except Failure Bundle → Prop
  | all {fragments : List Fragment} {ended : Except Failure Bundle} :
      progress = ⟨fragments, ended⟩ → Written path progress fragments ended
  | refused {fragments : List Fragment} {fragment : Fragment} {last : Bundle}
      (fault : FileFault) : progress = ⟨fragments ++ [fragment], .ok last⟩ →
      Written path progress fragments (.error (Failure.ofFile (.write path) fault))

theorem Written.behind {progress : Progress} {fragments : List Fragment}
    {ended : Except Failure Bundle} (written : Written path progress fragments ended)
    (earlier : List Fragment) :
    Written path ⟨earlier ++ progress.fragments, progress.outcome⟩ (earlier ++ fragments)
      ended := by
  cases written with
  | all same =>
      subst same
      exact .all rfl
  | refused fault same =>
      subst same
      exact .refused fault (by rw [List.append_assoc])

/-- One template is attempted, and what is written is its fragment or nothing. -/
theorem addTemplate_mayEnd (writes : base.WritesTo path location executable)
    {template : Template} {outcome : Except Failure TaskState}
    (ends : Work.MayEnd
      (addTemplate environment ⟨bundle, after path bundle.options.separator pieces⟩ template)
      (base.holding location executable (joined bundle.options.separator pieces)) outcome left) :
    ∃ found fragments ended,
      (found = .ok none ∨ found = attempt environment bundle.options
        (base.holding location executable (joined bundle.options.separator pieces)) template) ∧
      Written path (Bundle.progress environment bundle [(template, found)]) fragments ended ∧
      outcome = ended.map (fun last => ⟨last, after path bundle.options.separator
        (pieces ++ fragments.map (Fragment.render bundle.options.separator))⟩) ∧
      left = base.holding location executable (joined bundle.options.separator
        (pieces ++ fragments.map (Fragment.render bundle.options.separator))) := by
  unfold addTemplate at ends
  dsimp only at ends
  rcases Work.mayEnd_bind.mp ends with ⟨found, changed, compiles, rest⟩ | ⟨failure, rfl, compiles⟩
  · obtain ⟨tried, rfl⟩ := compiled?_mayEnd compiles
    cases found with
    | none =>
        obtain ⟨rfl, rfl⟩ := Work.mayEnd_pure.mp rest
        exact ⟨_, [], _, tried, .all rfl, by simp [Except.map], by simp⟩
    | some compiled =>
        have assembles := Work.mayEnd_bind_still (assembling_follows _ _ _) rest
        rw [assembling_effect] at assembles
        match assembled : Assembling.effect
            (Bundle.assemble environment template compiled.body compiled.ast) bundle with
        | (.error failure, last) =>
            rw [assembled] at assembles
            obtain ⟨rfl, rfl⟩ := assembles
            refine ⟨_, [], .error failure, tried, .all ?_, rfl, by simp⟩
            simp [Bundle.progress, assembled]
        | (.ok fragment, last) =>
            rw [assembled] at assembles
            have told := Work.mayEnd_bind_still (Work.follows_lift (Program.follows_tell _))
              assembles
            rw [tell_effect] at told
            have goes : Bundle.progress environment bundle [(template, .ok (some compiled))] =
                ⟨[fragment], .ok last.count⟩ := by
              simp [Bundle.progress, assembled, Progress.after]
            obtain ⟨result, changed, appends, rest⟩ := Work.mayEnd_lift_bind.mp told
            rcases OutputStream.append_mayEnd writes appends with ⟨rfl, rfl⟩ | ⟨fault, rfl, rfl⟩
            · obtain ⟨rfl, rfl⟩ := Work.mayEnd_pure.mp (written_mayEnd rest)
              exact ⟨_, [fragment], .ok last.count, tried, .all goes, rfl, rfl⟩
            · obtain ⟨rfl, rfl⟩ := written_mayEnd rest
              exact ⟨_, [], _, tried, .refused fault goes, rfl, by simp⟩
  · obtain ⟨tried, rfl⟩ := compiled?_mayEnd compiles
    exact ⟨_, [], .error failure, tried, .all rfl, rfl, by simp⟩

theorem Tried.nil (holds : List Fragment → FileTree) :
    Tried environment options bundle holds [] := by
  intro earlier made later same
  simp at same

/-- After the first attempt the others are tried with its fragments written. -/
theorem Tried.cons {holds : List Fragment → FileTree} {template : Template}
    {found : Except Failure (Option Compiled)} {fragments : List Fragment} {last : Bundle}
    {rest : List Attempt}
    (first : found = .ok none ∨ found = attempt environment options (holds []) template)
    (goes : Bundle.progress environment bundle [(template, found)] = ⟨fragments, .ok last⟩)
    (others : Tried environment options last (fun more => holds (fragments ++ more)) rest) :
    Tried environment options bundle holds ((template, found) :: rest) := by
  rintro (_ | ⟨attempt, earlier⟩) made later same
  · obtain ⟨rfl, rfl⟩ := List.cons.inj same
    exact first
  · obtain ⟨rfl, rfl⟩ := List.cons.inj same
    have progress := Bundle.progress_append goes earlier
    rw [List.singleton_append] at progress
    rw [progress]
    exact others earlier made later rfl

theorem Tried.single {holds : List Fragment → FileTree} {template : Template}
    {found : Except Failure (Option Compiled)}
    (first : found = .ok none ∨ found = attempt environment options (holds []) template) :
    Tried environment options bundle holds [(template, found)] := by
  rintro (_ | ⟨attempt, earlier⟩) made later same
  · obtain ⟨rfl, rfl⟩ := List.cons.inj same
    exact first
  · simp at same

/-- All templates are attempted, or those before a failure and the one that fails. The file holds
the fragments that are written. -/
theorem addTemplates_mayEnd (writes : base.WritesTo path location executable)
    {separator : String} (sameSeparator : bundle.options.separator = separator)
    {templates : List Template} {outcome : Except Failure TaskState}
    (ends : Work.MayEnd (addTemplates environment ⟨bundle, after path separator pieces⟩ templates)
      (base.holding location executable (joined separator pieces)) outcome left) :
    let texts (fragments : List Fragment) := pieces ++ fragments.map (Fragment.render separator)
    let holds (fragments : List Fragment) :=
      base.holding location executable (joined separator (texts fragments))
    ∃ attempted fragments ended,
      attempted.map Prod.fst <+: templates ∧
      (∀ last, ended = .ok last → attempted.map Prod.fst = templates) ∧
      Tried environment bundle.options bundle holds attempted ∧
      Written path (Bundle.progress environment bundle attempted) fragments ended ∧
      outcome = ended.map (fun last => ⟨last, after path separator (texts fragments)⟩) ∧
      left = holds fragments := by
  subst sameSeparator
  induction templates generalizing bundle pieces with
  | nil =>
      obtain ⟨rfl, rfl⟩ := Work.mayEnd_pure.mp ends
      exact ⟨[], [], .ok bundle, List.nil_prefix, fun _ _ => rfl, .nil _, .all rfl,
        by simp [Except.map], by simp⟩
  | cons template rest inductionHypothesis =>
      intro texts holds
      have goesOn (first more : List Fragment) : texts (first ++ more) =
          texts first ++ more.map (Fragment.render bundle.options.separator) := by
        simp [texts]
      rw [addTemplates] at ends
      rcases Work.mayEnd_bind.mp ends with ⟨state, changed, adds, more⟩ | ⟨failure, rfl, adds⟩
      · obtain ⟨found, fragments, ended, tried, written, same, rfl⟩ :=
          addTemplate_mayEnd writes adds
        cases written with
        | refused fault goes => simp [Except.map] at same
        | all goes =>
            cases ended with
            | error failure => simp [Except.map] at same
            | ok last =>
                obtain rfl := Except.ok.inj same
                have sameOptions := Bundle.progress_options goes
                rw [← sameOptions] at more
                obtain ⟨attempted, others, ended, inside, whole, triedRest, written, same, rfl⟩ :=
                  inductionHypothesis more
                rw [sameOptions] at triedRest same
                have progress := Bundle.progress_append goes attempted
                rw [List.singleton_append] at progress
                refine ⟨(template, found) :: attempted, fragments ++ others, ended,
                  (List.prefix_cons_inj template).mpr inside, ?_, ?_, ?_, ?_, ?_⟩
                · intro final settled
                  rw [List.map_cons, whole final settled]
                · refine .cons ?_ goes ?_
                  · simpa [holds, texts] using tried
                  · simpa only [holds, goesOn] using triedRest
                · rw [progress]
                  exact written.behind fragments
                · rw [goesOn]
                  exact same
                · rw [sameOptions]
                  dsimp only [holds]
                  rw [goesOn]
      · obtain ⟨found, fragments, ended, tried, written, same, rfl⟩ :=
          addTemplate_mayEnd writes adds
        refine ⟨[(template, found)], fragments, ended, ?_, ?_, .single ?_, written, ?_, rfl⟩
        · exact ⟨rest, rfl⟩
        · rintro last rfl
          simp [Except.map] at same
        · simpa [holds, texts] using tried
        · cases ended with
          | error other =>
              obtain rfl := Except.error.inj same
              rfl
          | ok last => simp [Except.map] at same

/-! ### The output -/

/-- An output is not opened, and nothing but directories is new, or it holds the preamble. -/
theorem openOutput_mayEnd {outcome : Except Failure TaskState}
    (ends : Work.MayEnd (openOutput environment options) tree outcome left) :
    ((∃ failure, outcome = .error failure) ∧ tree.Spares options.outputPath.parent none left) ∨
    ∃ bundle lines base location executable,
      Assembling.effect (Bundle.preamble environment) (Bundle.start options) = (.ok lines, bundle) ∧
      outcome = .ok ⟨bundle, after options.outputPath options.separator
        [Statement.render options.separator lines]⟩ ∧
      tree.Spares options.outputPath.parent none base ∧
      base.WritesTo options.outputPath location executable ∧
      left = base.holding location executable
        (joined options.separator [Statement.render options.separator lines]) := by
  unfold openOutput at ends
  dsimp only at ends
  rcases Work.mayEnd_bind.mp ends with ⟨_, base, makes, later⟩ | ⟨failure, rfl, makes⟩
  · have spares := ensureDirectory_mayEnd makes
    have assembles := Work.mayEnd_bind_still (assembling_follows _ _ _) later
    rw [assembling_effect] at assembles
    match preamble : Assembling.effect (Bundle.preamble environment) (Bundle.start options) with
    | (.error failure, _) =>
        rw [preamble] at assembles
        obtain ⟨rfl, rfl⟩ := assembles
        exact .inl ⟨⟨failure, rfl⟩, spares⟩
    | (.ok lines, bundle) =>
        rw [preamble] at assembles
        obtain ⟨result, changed, starts, rest⟩ := Work.mayEnd_lift_bind.mp assembles
        rcases OutputStream.start_mayEnd starts with
          ⟨location, executable, writes, rfl, rfl⟩ | ⟨fault, rfl, rfl⟩
        · obtain ⟨rfl, rfl⟩ := Work.mayEnd_pure.mp (written_mayEnd rest)
          refine .inr ⟨bundle, lines, base, location, executable, rfl, rfl, spares, writes, ?_⟩
          rw [OutputStream.joined_singleton]
        · obtain ⟨rfl, rfl⟩ := written_mayEnd rest
          exact .inl ⟨⟨_, rfl⟩, spares⟩
  · exact .inl ⟨⟨failure, rfl⟩, ensureDirectory_mayEnd makes⟩

theorem closeOutput_mayEnd (writes : base.WritesTo path location executable)
    {separator : String} (sameSeparator : bundle.options.separator = separator)
    (ends : Work.MayEnd (closeOutput ⟨bundle, after path separator pieces⟩)
      (base.holding location executable (joined separator pieces)) (.error failure) left) :
    (∃ fault, failure = Failure.ofFile (.write path) fault) ∧
      ∃ more, more <+: [Statement.render separator bundle.ending] ∧
        left = base.holding location executable (joined separator (pieces ++ more)) := by
  subst sameSeparator
  unfold closeOutput at ends
  dsimp only at ends
  obtain ⟨result, changed, closes, rest⟩ := Work.mayEnd_lift_bind.mp ends
  rcases OutputStream.close_mayEnd writes closes with
    ⟨stream, rfl⟩ | ⟨fault, stream, rfl, more, part, rfl⟩
  · obtain ⟨fails, _⟩ := Work.mayEnd_pure.mp (written_mayEnd rest)
    simp at fails
  · obtain ⟨fails, rfl⟩ := written_mayEnd rest
    exact ⟨⟨fault, Except.error.inj fails⟩, more, part, rfl⟩

/-- At the end of a task nothing can fail but closing the output. -/
theorem ending_mayEnd {state : TaskState}
    (ends : Work.MayEnd (do
      closeOutput state
      tellEnd state.bundle
      pure state.bundle.report) tree (.error failure) left) :
    Work.MayEnd (closeOutput state) tree (.error failure) left := by
  rcases Work.mayEnd_bind.mp ends with ⟨_, closed, _, ending⟩ | ⟨_, same, closes⟩
  · have told := Work.mayEnd_bind_still (tellEnd_follows state.bundle closed) ending
    rw [tellEnd_effect] at told
    obtain ⟨impossible, _⟩ := Work.mayEnd_pure.mp told
    simp at impossible
  · rwa [Except.error.inj same]

end Task

end TemplateBundle
