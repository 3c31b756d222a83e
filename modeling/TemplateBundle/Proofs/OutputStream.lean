import TemplateBundle.OutputStream
import TemplateBundle.Proofs.FileTree.Content
import TemplateBundle.Proofs.Program.Effect

/-!
Contract: what an output file holds after any calls of its stream.

Owns: the text of some pieces (the non-empty ones with the separator between them), the state
of a stream after some pieces, and for each call one equation: from the state and the file
after some pieces to the state and the file after one more.
-/

namespace TemplateBundle.OutputStream

/-- One of some pieces is not empty. -/
def hasPiece (pieces : List String) : Bool := pieces.any (· ≠ "")

/-- The text of some pieces: those that are not empty, with a separator between them. -/
def joined (separator : String) (pieces : List String) : String :=
  String.intercalate separator (pieces.filter (· ≠ ""))

/-- The text of a file that is closed: a line feed ends it if it holds a piece. -/
def finished (separator : String) (pieces : List String) : String :=
  joined separator pieces ++ if hasPiece pieces then "\n" else ""

/-- A stream after some pieces. -/
def after (path : Path) (separator : String) (pieces : List String) : OutputStream :=
  ⟨path, separator, hasPiece pieces⟩

variable {separator : String} {pieces : List String} {text : String}

theorem hasPiece_append_empty : hasPiece (pieces ++ [""]) = hasPiece pieces := by
  simp [hasPiece]

theorem hasPiece_append (filled : text ≠ "") : hasPiece (pieces ++ [text]) = true := by
  simp [hasPiece, filled]

theorem filter_ne_nil (some : hasPiece pieces = true) : pieces.filter (· ≠ "") ≠ [] := by
  obtain ⟨piece, member, isFilled⟩ := List.any_eq_true.mp some
  exact List.ne_nil_of_mem (List.mem_filter.mpr ⟨member, isFilled⟩)

theorem filter_eq_nil (none : hasPiece pieces = false) : pieces.filter (· ≠ "") = [] := by
  rw [List.filter_eq_nil_iff]
  exact List.any_eq_false.mp none

theorem joined_append_empty : joined separator (pieces ++ [""]) = joined separator pieces := by
  simp [joined]

theorem joined_append (filled : text ≠ "") :
    joined separator (pieces ++ [text]) =
      joined separator pieces ++ if hasPiece pieces then separator ++ text else text := by
  have last : [text].filter (· ≠ "") = [text] := by simp [filled]
  unfold joined
  rw [List.filter_append, last]
  cases some : hasPiece pieces with
  | true =>
      rw [String.intercalate_append_of_ne_nil (filter_ne_nil some) (by simp),
        String.intercalate_singleton, String.append_assoc]
      rfl
  | false =>
      rw [filter_eq_nil some]
      simp

theorem joined_singleton : joined separator [text] = text := by
  by_cases filled : text = ""
  · simp [joined, filled]
  · simp [joined, filled]

section Calls

variable {tree : FileTree} {path : Path} {location : Location} {executable : Bool}

/-- What a stream has written before makes no difference to a start. -/
theorem start_ok {stream : OutputStream} {begun : FileTree}
    (begins : tree.truncate stream.path text = .ok begun) :
    (stream.start text).effect tree =
      ((.ok (), after stream.path stream.separator [text]), begun) := by
  rw [start, Program.effect_bind, Program.effect_perform]
  simp [FileTree.perform, begins, writeOutcome, after, hasPiece]

/-- Starting either leaves the file with the first piece, or fails and changes nothing. -/
theorem start_effect (tree : FileTree) (path : Path) (separator text : String) :
    (∃ location executable, tree.WritesTo path location executable ∧
      tree.truncate path text = .ok (tree.holding location executable text) ∧
      ((ofPath path separator).start text).effect tree =
        ((.ok (), after path separator [text]), tree.holding location executable text)) ∨
    ∃ fault, tree.truncate path text = .error fault ∧
      ((ofPath path separator).start text).effect tree =
        ((.error (Failure.ofFile (.write path) fault), ofPath path separator), tree) := by
  cases outcome : tree.truncate path text with
  | ok changed =>
      obtain ⟨location, executable, writes, rfl⟩ := FileTree.truncate_ok outcome
      exact .inl ⟨location, executable, writes, rfl, start_ok outcome⟩
  | error fault =>
      refine .inr ⟨fault, rfl, ?_⟩
      rw [start, Program.effect_bind, Program.effect_perform]
      simp [FileTree.perform, ofPath, outcome, writeOutcome]

/-- A piece that is added comes after those before it. -/
theorem append_effect (writes : tree.WritesTo path location executable)
    (separator : String) (pieces : List String) (text : String) :
    ((after path separator pieces).append text).effect
        (tree.holding location executable (joined separator pieces)) =
      ((.ok (), after path separator (pieces ++ [text])),
        tree.holding location executable (joined separator (pieces ++ [text]))) := by
  unfold OutputStream.append
  by_cases filled : text = ""
  · subst filled
    simp [joined_append_empty, after, hasPiece_append_empty]
  · rw [if_neg filled, joined_append filled, Program.effect_bind, Program.effect_perform]
    simp only [FileTree.perform, after, writes.append, hasPiece_append filled]
    rfl

/-- Closing adds the last piece and ends a file that holds anything with a line feed. -/
theorem close_effect (writes : tree.WritesTo path location executable)
    (separator : String) (pieces : List String) (text : String) :
    ((after path separator pieces).close text).effect
        (tree.holding location executable (joined separator pieces)) =
      ((.ok (), after path separator (pieces ++ [text])),
        tree.holding location executable (finished separator (pieces ++ [text]))) := by
  unfold OutputStream.close
  rw [Program.effect_bind, append_effect writes]
  cases some : hasPiece (pieces ++ [text]) with
  | true =>
      simp only [after, some, if_true, finished]
      rw [Program.effect_bind, Program.effect_perform]
      simp only [FileTree.perform, writes.append]
      rfl
  | false => simp [after, some, finished]

end Calls

/-! ### A whole session -/

/-- What a stream is asked for. -/
inductive Call where
  | start (text : String)
  | append (text : String)
  | close (text : String)

/-- The answer to one call, and the stream after it. -/
def Call.perform (stream : OutputStream) : Call → Program (Except Failure Unit × OutputStream)
  | .start text => stream.start text
  | .append text => stream.append text
  | .close text => stream.close text

/-- Calls one after another, up to the first that fails. -/
def performAll (stream : OutputStream) : List Call → Program (Except Failure Unit × OutputStream)
  | [] => pure (.ok (), stream)
  | call :: rest => do
      match ← call.perform stream with
      | (.ok (), stream) => stream.performAll rest
      | (.error failure, stream) => pure (.error failure, stream)

/-- The calls that begin a file, add pieces to it and close it. -/
def session (first : String) (pieces : List String) (last : String) : List Call :=
  .start first :: (pieces.map .append ++ [.close last])

theorem take_session {count : Nat} (within : count ≤ pieces.length) (first last : String) :
    (session first pieces last).take (count + 1) =
      .start first :: (pieces.take count).map .append := by
  have fits : count ≤ (pieces.map Call.append).length := by rwa [List.length_map]
  rw [session, List.take_succ_cons, List.take_append_of_le_length fits, List.map_take]

section Session

variable {stream next : OutputStream} {call : Call} {tree begun changed : FileTree} {path : Path}
  {location : Location} {executable : Bool}

theorem performAll_cons (succeeds : (call.perform stream).effect tree = ((.ok (), next), changed))
    (rest : List Call) :
    (stream.performAll (call :: rest)).effect tree = (next.performAll rest).effect changed := by
  rw [performAll, Program.effect_bind, succeeds]

/-- Pieces that are added, and what is called after them. -/
theorem performAll_append (writes : tree.WritesTo path location executable)
    (separator : String) (done pieces : List String) (rest : List Call) :
    ((after path separator done).performAll (pieces.map .append ++ rest)).effect
        (tree.holding location executable (joined separator done)) =
      ((after path separator (done ++ pieces)).performAll rest).effect
        (tree.holding location executable (joined separator (done ++ pieces))) := by
  induction pieces generalizing done with
  | nil => rw [List.append_nil]; rfl
  | cons piece more inductionHypothesis =>
      have added : ((Call.append piece).perform (after path separator done)).effect _ = _ :=
        append_effect writes separator done piece
      rw [List.map_cons, List.cons_append, performAll_cons added, inductionHypothesis,
        List.append_assoc]
      rfl

/-- After the start and some pieces, what is called next goes on from just those pieces. -/
theorem performAll_start (begins : tree.truncate stream.path text = .ok begun) :
    ∃ location executable, tree.WritesTo stream.path location executable ∧
      ∀ pieces rest,
        (stream.performAll (.start text :: (pieces.map .append ++ rest))).effect tree =
          ((after stream.path stream.separator (text :: pieces)).performAll rest).effect
            (tree.holding location executable (joined stream.separator (text :: pieces))) := by
  obtain ⟨location, executable, writes, rfl⟩ := FileTree.truncate_ok begins
  refine ⟨location, executable, writes, fun pieces rest => ?_⟩
  have started : ((Call.start text).perform stream).effect tree = _ := start_ok begins
  have added := performAll_append writes stream.separator [text] pieces rest
  rw [joined_singleton] at added
  rw [performAll_cons started, added]
  rfl

/-- Once a file has been begun, no later call of the session fails. After the start and any of the
pieces the file holds just the non-empty ones so far with the separator between them, whatever it
held before and whatever the stream had written; after the whole session it holds them all and ends
with a line feed, or it is empty if there is none. -/
theorem session_reads (stream : OutputStream) (first : String) (pieces : List String)
    (last : String) (begins : tree.truncate stream.path first = .ok begun) :
    (∀ count ≤ pieces.length, ∃ next changed,
      (stream.performAll ((session first pieces last).take (count + 1))).effect tree =
        ((.ok (), next), changed) ∧
      changed.read stream.path =
        .ok (joined stream.separator (first :: pieces.take count)).toUTF8) ∧
    ∃ next changed,
      (stream.performAll (session first pieces last)).effect tree = ((.ok (), next), changed) ∧
      changed.read stream.path =
        .ok (finished stream.separator (first :: pieces ++ [last])).toUTF8 := by
  obtain ⟨location, executable, writes, runs⟩ := performAll_start begins
  constructor
  · intro count within
    have soFar := runs (pieces.take count) []
    rw [List.append_nil] at soFar
    rw [take_session within, soFar]
    exact ⟨_, _, rfl, writes.read _⟩
  · have closed : ((Call.close last).perform _).effect _ = _ :=
      close_effect writes stream.separator (first :: pieces) last
    rw [session, runs, performAll_cons closed]
    exact ⟨_, _, rfl, writes.read _⟩

/-- A file that held something, and a stream that has written. -/
theorem session_reads_over_old_file :
    let tree : FileTree := ⟨[(["a.js"], .file "old".toUTF8 false)], []⟩
    let stream : OutputStream := ⟨Path.ofString "a.js", ";", true⟩
    (∃ begun, tree.truncate stream.path "" = .ok begun) ∧
      ∃ next changed,
        (stream.performAll (session "" ["x;", "", "y\n"] "")).effect tree =
          ((.ok (), next), changed) ∧
        changed.read stream.path = .ok "x;;y\n\n".toUTF8 := by
  intro tree stream
  have begins : (tree.truncate stream.path "").toBool = true := by decide +kernel
  cases truncates : tree.truncate stream.path "" with
  | error fault => simp [truncates, Except.toBool] at begins
  | ok begun =>
      have written : finished ";" ("" :: ["x;", "", "y\n"] ++ [""]) = "x;;y\n\n" := by
        decide +kernel
      have reads := (session_reads stream "" ["x;", "", "y\n"] "" truncates).2
      rw [written] at reads
      exact ⟨⟨begun, rfl⟩, reads⟩

end Session

end TemplateBundle.OutputStream
