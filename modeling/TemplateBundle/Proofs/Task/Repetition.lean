import TemplateBundle.Proofs.FileTree.Making
import TemplateBundle.Proofs.Task.Skipping

/-!
Contract: a task that is run again on the tree it left.

Owns: the directory of an output that is there already, the output opened again whatever its
file holds, and that the second run gives the same report and leaves the tree as it is.

The output may be one of the templates: the run reads its own preamble then, both times.
-/

namespace TemplateBundle

variable {environment : Environment} {options : Options} {tree base opened : FileTree}
  {path : Path} {location : Location} {executable : Bool}

/-- Once its directory is ensured, a tree that has grown is left as it is. -/
theorem ensureDirectory_again {after : FileTree}
    (done : Work.effect (ensureDirectory path) tree = (.ok (), base))
    (grows : FileTree.Grows base after) :
    Work.effect (ensureDirectory path) after = (.ok (), after) := by
  rw [ensureDirectory_effect]
  rcases ensureDirectory_ok done with ⟨here, _⟩ | ⟨notHere, made⟩
  · rw [if_pos here]
  · have reached := FileTree.reachesDirectory_grows grows
      (FileTree.reachesDirectory_of_makeDirectories made)
    rw [if_neg notHere, FileTree.makeDirectories_reached reached]
    rfl

namespace Task

open OutputStream (joined)

variable {state : TaskState} {lines : List Statement}

/-- Whatever the file of an opened output holds, it is opened again in the same way. -/
theorem Opening.again
    (opening : Opening environment options tree state opened base location executable lines)
    (text : String) :
    Opening environment options (base.holding location executable text) state opened
      (base.holding location executable text) location executable lines := by
  have rewritten (other : String) : (base.holding location executable text).holding location
      executable other = base.holding location executable other := FileTree.set_twice _ _ _ _
  refine ⟨?_, opening.preamble, opening.writes.again text, ?_, opening.stream, ?_⟩
  · apply ensureDirectory_again opening.directory
    exact FileTree.grows_holding opening.writes.notRoot opening.writes.fileOrFree text
  · rw [opening.holds, OutputStream.joined_singleton]
    exact opening.writes.truncate_again text _
  · rw [rewritten]
    exact opening.holds

/-- A run that completes does the same when it is run again on the tree it left: it completes
with the same report, and the tree stays as it is. -/
theorem run_again {report : Report}
    (completes : ((run environment options).run tree).value = .ok report) :
    let left := ((run environment options).run tree).tree
    ((run environment options).run left).value = .ok report ∧
      ((run environment options).run left).tree = left := by
  intro left
  obtain ⟨state, base, location, executable, lines, templates, fragments, last, completion⟩ :=
    completion_of_run completes
  have available : environment.compiler.available = .ok () := by
    rw [Program.run_value] at completes
    exact available_of_work (Prod.ext completes rfl)
  let text := OutputStream.finished options.separator
    (Statement.render options.separator lines ::
      fragments.map (Fragment.render options.separator) ++
      [Statement.render options.separator last.ending])
  have holds : left = base.holding location executable text := completion.left
  -- The second run opens its output into the very tree that the first one opened.
  have opening := completion.opening.again text
  rw [← holds] at opening
  obtain ⟨value, repeated⟩ :=
    completion_of_progress available opening completion.discovers completion.progress
  refine ⟨value.trans (congrArg Except.ok completion.report.symm), ?_⟩
  calc ((run environment options).run left).tree
    _ = left.holding location executable text := repeated.left
    _ = (base.holding location executable text).holding location executable text := by rw [holds]
    _ = base.holding location executable text := FileTree.set_twice _ _ _ _
    _ = left := holds.symm

/-- A directory of templates that the output is one of. -/
def ownTemplates : FileTree where
  entries := [(["t"], .directory), (["t", "p.hbs"], .file "P".toUTF8 false),
    (["t", "o.hbs"], .file "old".toUTF8 true)]
  home := []

def ownOptions : Options :=
  { inputDir := ⟨0, ["t"]⟩, outputDir := ⟨0, ["t", "u"]⟩, outputFile := "../o.hbs",
    namespaceRule := .off, commonjs := true }

/-- The first run replaces the old text and makes a directory; the second one does nothing. -/
theorem run_again_over_own_output :
    let left := ((run echo ownOptions).run ownTemplates).tree
    left.reaches ⟨0, ["t", "u"]⟩ = true ∧
      ((run echo ownOptions).run left).value =
        .ok ⟨⟨0, ["t", "u", "..", "o.hbs"]⟩, 2, []⟩ ∧
      ((run echo ownOptions).run left).tree = left :=
  ⟨by decide +kernel, run_again (ok_of_toOption (by decide +kernel))⟩

end Task

end TemplateBundle
