import ChatAssistant.Command.Completion
import ChatAssistant.Dialogue
import Mathlib.Data.List.Infix

/-!
# Completed commands

What is offered while a command is typed is what is run when the line is entered.  The completion looks at the
bytes up to the cursor, the dialogue at the words of the line; both mean the same command.
-/

namespace ChatAssistant.Command

open ChatAssistant.Conversation

/-! ## Places in a line -/

theorem utf8ByteSize_ofList_cons (c : Char) (cs : List Char) :
    (String.ofList (c :: cs)).utf8ByteSize = c.utf8Size + (String.ofList cs).utf8ByteSize := by
  rw [← List.singleton_append, String.ofList_append, String.utf8ByteSize_append,
    ← String.singleton_eq_ofList, String.utf8ByteSize_singleton]

theorem splitAt?_append (front back : List Char) :
    splitAt? (String.ofList front).utf8ByteSize (front ++ back) = some (front, back) := by
  induction front with
  | nil => rw [String.ofList_nil, String.utf8ByteSize_empty, splitAt?, List.nil_append]
  | cons c front ih =>
    obtain ⟨n, hn⟩ := Nat.exists_eq_add_one.mpr
      (Nat.add_pos_left c.utf8Size_pos (String.ofList front).utf8ByteSize)
    rw [utf8ByteSize_ofList_cons, hn, List.cons_append, splitAt?, if_pos (by omega), ← hn,
      Nat.add_sub_cancel_left, ih]
    rfl

theorem eq_of_splitAt? {place : Nat} {cs front back : List Char}
    (h : splitAt? place cs = some (front, back)) :
    cs = front ++ back ∧ (String.ofList front).utf8ByteSize = place := by
  fun_induction splitAt? place cs generalizing front with
  | case1 cs =>
    cases h
    exact ⟨rfl, rfl⟩
  | case2 => cases h
  | case3 n c rest hle ih =>
    obtain ⟨⟨before, after⟩, hsplit, hparts⟩ := Option.map_eq_some_iff.mp h
    cases hparts
    obtain ⟨rfl, hsize⟩ := ih hsplit
    refine ⟨rfl, ?_⟩
    rw [utf8ByteSize_ofList_cons, hsize]
    omega
  | case4 => cases h

/-- A line is split at the places between its characters, and nowhere else. -/
theorem splitAt?_eq_some_iff {place : Nat} {cs front back : List Char} :
    splitAt? place cs = some (front, back) ↔
      cs = front ++ back ∧ (String.ofList front).utf8ByteSize = place := by
  refine ⟨eq_of_splitAt?, ?_⟩
  rintro ⟨rfl, rfl⟩
  exact splitAt?_append front back

/-- The line with a text in place of what stands between two places. -/
def replace? (line : String) (start stop : Nat) (text : String) : Option String := do
  let (front, _) ← splitAt? start line.toList
  let (_, back) ← splitAt? stop line.toList
  some (String.ofList front ++ text ++ String.ofList back)

/-! ## What is offered -/

/-- A command is being typed: the line starts with a slash, and what is typed of the name stands between it and
the cursor and holds no space. -/
structure Typing (line : String) (cursor : Nat) (typed rest : String) : Prop where
  line_eq : line = "/" ++ typed ++ rest
  cursor_eq : cursor = ("/" ++ typed).utf8ByteSize
  spaceless : ' ' ∉ typed.toList

theorem Typing.typedPart?_eq {line : String} {cursor : Nat} {typed rest : String}
    (h : Typing line cursor typed rest) : typedPart? line cursor = some typed.toList := by
  obtain ⟨rfl, rfl, hspaceless⟩ := h
  have hline : ("/" ++ typed ++ rest).toList = '/' :: (typed.toList ++ rest.toList) := by simp
  have hcursor : ("/" ++ typed).utf8ByteSize = typed.utf8ByteSize + 1 := by
    rw [String.utf8ByteSize_append, Nat.add_comm]
    rfl
  have hsplit := splitAt?_append typed.toList rest.toList
  rw [String.ofList_toList] at hsplit
  simp only [typedPart?, hline, hcursor, hsplit]
  simp [hspaceless]

theorem exists_typing {line : String} {cursor : Nat} {typed : List Char}
    (h : typedPart? line cursor = some typed) : ∃ rest, Typing line cursor (String.ofList typed) rest := by
  unfold typedPart? at h
  split at h
  · next tail n hline =>
    split at h
    · next typed back hsplit =>
      split at h
      · cases h
      · next hspace =>
        cases h
        obtain ⟨rfl, rfl⟩ := eq_of_splitAt? hsplit
        refine ⟨String.ofList back, ?_, ?_, ?_⟩
        · rw [String.ext_iff, hline]
          simp
        · rw [String.utf8ByteSize_append, Nat.add_comm]
          rfl
        · simpa using hspace
    · cases h
  · cases h

section

variable {line typed rest name : String} {cursor : Nat}

theorem Typing.complete_eq (h : Typing line cursor typed rest) :
    complete line cursor = ⟨1, names.filter fun name => typed.toList.isPrefixOf name.toList⟩ := by
  rw [complete, h.typedPart?_eq]

theorem complete_eq_or_typing (line : String) (cursor : Nat) :
    complete line cursor = ⟨cursor, []⟩ ∨ ∃ typed rest, Typing line cursor typed rest := by
  cases h : typedPart? line cursor with
  | none =>
    rw [complete, h]
    exact .inl rfl
  | some typed => exact .inr ⟨_, exists_typing h⟩

theorem Typing.mem_candidates_iff (h : Typing line cursor typed rest) :
    name ∈ (complete line cursor).candidates ↔
      (∃ c : Command, c.name = name) ∧ typed.toList <+: name.toList := by
  rw [h.complete_eq, List.mem_filter, mem_names_iff, List.isPrefixOf_iff_prefix]

theorem pairwise_names : names.Pairwise (· < ·) := by
  decide

theorem Typing.pairwise_candidates (h : Typing line cursor typed rest) :
    (complete line cursor).candidates.Pairwise (· < ·) := by
  rw [h.complete_eq]
  dsimp only
  exact pairwise_names.filter _

theorem Typing.replace?_eq (h : Typing line cursor typed rest) (name : String) :
    replace? line (complete line cursor).start cursor name = some ("/" ++ name ++ rest) := by
  rw [h.complete_eq]
  obtain ⟨rfl, rfl, -⟩ := h
  have hstart : splitAt? 1 ("/" ++ typed ++ rest).toList = some (['/'], typed.toList ++ rest.toList) :=
    splitAt?_eq_some_iff.mpr ⟨by simp, rfl⟩
  have hstop : splitAt? ("/" ++ typed).utf8ByteSize ("/" ++ typed ++ rest).toList =
      some (("/" ++ typed).toList, rest.toList) :=
    splitAt?_eq_some_iff.mpr ⟨String.toList_append, by rw [String.ofList_toList]⟩
  simp only [replace?, hstart, hstop, Option.bind_eq_bind, Option.bind_some, String.ofList_toList]

theorem Typing.rest_eq_empty (h : Typing line cursor typed rest) (hend : cursor = line.utf8ByteSize) :
    rest = "" := by
  have hsize : line.utf8ByteSize = cursor + rest.utf8ByteSize := by
    rw [h.line_eq, String.utf8ByteSize_append, h.cursor_eq]
  exact String.utf8ByteSize_eq_zero_iff.mp (by omega)

end

/-! ## What is run -/

/-- A line runs the command without arguments, in whatever dialogue it is entered. -/
def RunBy (c : Command) (line : String) : Prop :=
  ∀ (d : Dialogue) (hasColor : Bool) (respond : Request → Outcome),
    let reaction := d.session.runCommand hasColor c []
    d.enter hasColor respond line =
      ⟨{ d.note line with session := reaction.session.settle.1 }, Dialogue.commandBlocks reaction.output, [],
        reaction.log ++ reaction.session.settle.2⟩

theorem ofLine_name (c : Command) : Dialogue.Entry.ofLine ("/" ++ c.name) = .command c.name [] := by
  cases c <;> decide

theorem runBy_name (c : Command) : RunBy c ("/" ++ c.name) := by
  intro d hasColor respond
  have hrun : d.session.run hasColor c.name [] = d.session.runCommand hasColor c [] := by
    rw [Session.run, ofName?_name]
  rw [Dialogue.enter, ofLine_name, Dialogue.note_eq]
  dsimp only [Dialogue.command]
  rw [hrun]

theorem typing_of_begins {c : Command} {typed : String} (h : typed.toList <+: c.name.toList) :
    Typing ("/" ++ typed) ("/" ++ typed).utf8ByteSize typed "" := by
  have hname : ' ' ∉ c.name.toList := by cases c <;> decide
  exact ⟨String.append_empty.symm, rfl, fun hspace => hname (h.subset hspace)⟩

/-- Nothing is offered where no command is being typed.  Where one is, the names of commands that go on from
what is typed are offered in ascending order, each once.  Put in its place before the cursor, a name makes a line
that runs the command if the cursor stands at the end.  Whoever types the start of a name is offered the name. -/
theorem offered_name_is_run (line : String) (cursor : Nat) :
    (complete line cursor = ⟨cursor, []⟩ ∨ ∃ typed rest, Typing line cursor typed rest) ∧
    (∀ typed rest, Typing line cursor typed rest →
      (complete line cursor).candidates.Pairwise (· < ·) ∧
      (∀ name, name ∈ (complete line cursor).candidates ↔
        (∃ c : Command, c.name = name) ∧ typed.toList <+: name.toList) ∧
      ∀ name ∈ (complete line cursor).candidates, ∃ filled,
        replace? line (complete line cursor).start cursor name = some filled ∧
        filled = "/" ++ name ++ rest ∧
        (cursor = line.utf8ByteSize → ∃ c : Command, c.name = name ∧ RunBy c filled)) ∧
    ∀ (c : Command) (typed : String), typed.toList <+: c.name.toList →
      c.name ∈ (complete ("/" ++ typed) ("/" ++ typed).utf8ByteSize).candidates := by
  refine ⟨complete_eq_or_typing line cursor, fun typed rest h => ?_, fun c typed hprefix => ?_⟩
  · refine ⟨h.pairwise_candidates, fun _ => h.mem_candidates_iff, fun name hname => ?_⟩
    obtain ⟨⟨c, rfl⟩, -⟩ := h.mem_candidates_iff.mp hname
    refine ⟨_, h.replace?_eq c.name, rfl, fun hend => ⟨c, rfl, ?_⟩⟩
    rw [h.rest_eq_empty hend, String.append_empty]
    exact runBy_name c
  · exact (typing_of_begins hprefix).mem_candidates_iff.mpr ⟨⟨c, rfl⟩, hprefix⟩

theorem offered_name_is_run_model :
    Typing "/mo" 3 "mo" "" ∧ "models" ∈ (complete "/mo" 3).candidates ∧
      replace? "/mo" (complete "/mo" 3).start 3 "models" = some "/models" ∧
      (∃ c : Command, c.name = "models" ∧ RunBy c "/models") ∧
      "mo".toList <+: model.name.toList ∧ "model" ∈ (complete "/mo" 3).candidates := by
  have htyping : Typing "/mo" 3 "mo" "" := ⟨by decide, by decide, by decide⟩
  have hprefix : "mo".toList <+: model.name.toList := by decide
  obtain ⟨-, hoffered, hstart⟩ := offered_name_is_run "/mo" 3
  obtain ⟨-, hmem, hfilled⟩ := hoffered "mo" "" htyping
  have hmodels : "models" ∈ (complete "/mo" 3).candidates := (hmem "models").mpr ⟨⟨models, rfl⟩, by decide⟩
  obtain ⟨_, hreplace, rfl, hrun⟩ := hfilled "models" hmodels
  exact ⟨htyping, hmodels, hreplace, hrun (by decide), hprefix, hstart model "mo" hprefix⟩

end ChatAssistant.Command
