import ChatAssistant.Proofs.Yaml.Tokens

/-!
# The tokens of a table

The text of a table holds visible characters only, so that the lexer takes it as it is, and reads the tokens
of its entries.
-/

namespace ChatAssistant.Yaml

/-! ## The characters that are written -/

theorem isVisible_of_mem_spaces {n : Nat} : ∀ c ∈ spaces n, isVisible c = true := by
  intro c hc
  rw [List.eq_of_mem_replicate hc]
  rfl

theorem isVisible_of_mem_hexOf {count n : Nat} : ∀ c ∈ hexOf n count, isVisible c = true := by
  have hdigit : ∀ m, m < 16 → isVisible (upperHex m) = true := by decide
  induction count generalizing n with
  | zero => exact fun c hc => by cases hc
  | succ count ih =>
    rw [hexOf, List.forall_mem_append, List.forall_mem_singleton]
    exact ⟨ih, hdigit _ (Nat.mod_lt n (by decide))⟩

theorem isVisible_of_mem_doubleChar (c : Char) : ∀ d ∈ doubleChar c, isVisible d = true := by
  have hcode : ∀ (front : List Char) (count : Nat), (∀ d ∈ front, isVisible d = true) →
      ∀ d ∈ front ++ hexOf c.toNat count, isVisible d = true := fun front count hfront =>
    List.forall_mem_append.mpr ⟨hfront, isVisible_of_mem_hexOf⟩
  unfold doubleChar
  split
  case h_15 =>
    split
    · next hvisible => exact List.forall_mem_singleton.mpr hvisible
    · split
      · exact hcode _ 2 (List.all_eq_true.mp rfl)
      · split
        · exact hcode _ 4 (List.all_eq_true.mp rfl)
        · exact hcode _ 8 (List.all_eq_true.mp rfl)
  all_goals exact List.all_eq_true.mp rfl

theorem isVisible_of_mem_singleBody {indent : Nat} {atBreak : Bool} {s : List Char}
    (h : ∀ c ∈ s, isVisible c = true) : ∀ c ∈ singleBody indent atBreak s, isVisible c = true := by
  induction s generalizing atBreak with
  | nil =>
    rw [singleBody]
    split
    · exact isVisible_of_mem_spaces
    · exact fun c hc => by cases hc
  | cons c s ih =>
    rw [List.forall_mem_cons] at h
    rw [singleBody]
    split
    · exact List.forall_mem_cons.mpr ⟨h.1, ih h.2⟩
    · refine List.forall_mem_append.mpr ⟨List.forall_mem_append.mpr ⟨?_, ?_⟩, ih h.2⟩
      · split
        · exact isVisible_of_mem_spaces
        · exact fun c hc => by cases hc
      · split
        · exact List.all_eq_true.mp rfl
        · exact List.forall_mem_singleton.mpr h.1

theorem isVisible_of_mem_literalBody {indent : Nat} {atBreak : Bool} {s : List Char}
    (h : ∀ c ∈ s, isVisible c = true) : ∀ c ∈ literalBody indent atBreak s, isVisible c = true := by
  induction s generalizing atBreak with
  | nil =>
    rw [literalBody]
    split <;> exact List.all_eq_true.mp rfl
  | cons c s ih =>
    rw [List.forall_mem_cons] at h
    rw [literalBody]
    split
    · exact List.forall_mem_cons.mpr ⟨h.1, ih h.2⟩
    · refine List.forall_mem_append.mpr ⟨?_, List.forall_mem_cons.mpr ⟨h.1, ih h.2⟩⟩
      split
      · exact isVisible_of_mem_spaces
      · exact fun c hc => by cases hc

theorem isVisible_of_mem_inlineString (indent : Nat) {s : String} (h : styleOf s ≠ .literal) :
    ∀ c ∈ inlineString indent (styleOf s) s, isVisible c = true := by
  cases hstyle : styleOf s with
  | literal => exact absurd hstyle h
  | plain => exact (plainString_of_styleOf hstyle).1.visible
  | single =>
    refine List.forall_mem_cons.mpr ⟨rfl, List.forall_mem_append.mpr ⟨?_, List.all_eq_true.mp rfl⟩⟩
    exact isVisible_of_mem_singleBody (keptBySingle_of_styleOf hstyle).visible
  | double =>
    refine List.forall_mem_cons.mpr ⟨rfl, List.forall_mem_append.mpr ⟨fun d hd => ?_, List.all_eq_true.mp rfl⟩⟩
    obtain ⟨c, -, hd⟩ := List.mem_flatMap.mp hd
    exact isVisible_of_mem_doubleChar c d hd

theorem isVisible_of_mem_writeString {indent : Nat} (s : String) :
    ∀ c ∈ writeString indent s, isVisible c = true := by
  rw [writeString]
  cases hstyle : styleOf s with
  | literal =>
    have hsigns : ∀ c ∈ literalSigns s.toList, isVisible c = true := by
      rw [literalSigns_eq]
      cases startsBlank s.toList <;> cases chompingOf s.toList <;>
        exact List.all_eq_true.mp rfl
    exact List.forall_mem_cons.mpr ⟨rfl, List.forall_mem_append.mpr ⟨hsigns, List.forall_mem_cons.mpr
      ⟨rfl, isVisible_of_mem_literalBody (keptByLiteral_of_styleOf hstyle).visible⟩⟩⟩
  | plain | single | double =>
    have := isVisible_of_mem_inlineString indent (s := s) (by rw [hstyle]; decide)
    rw [hstyle] at this
    exact List.forall_mem_append.mpr ⟨this, List.all_eq_true.mp rfl⟩

theorem isVisible_of_mem_placeEntry {n : Nat} {key : String} {value : Json.Value} {written : Nat → List Char}
    (h : ∀ m, ∀ c ∈ written m, isVisible c = true) :
    ∀ c ∈ placeEntry n key value written, isVisible c = true := by
  rw [placeEntry]
  split
  · next hsimple =>
    have hline := List.forall_mem_append.mpr
      ⟨isVisible_of_mem_inlineString (n + 2) (ne_literal_of_isSimpleKey hsimple),
        List.forall_mem_singleton.mpr (show isVisible ':' = true from rfl)⟩
    have hplaced : ∀ m, ∀ c ∈ '\n' :: (spaces m ++ written m), isVisible c = true := fun m =>
      List.forall_mem_cons.mpr ⟨rfl, List.forall_mem_append.mpr ⟨isVisible_of_mem_spaces, h m⟩⟩
    dsimp only
    split
    · exact List.forall_mem_append.mpr ⟨hline, hplaced n⟩
    · split
      · exact List.forall_mem_append.mpr ⟨hline, hplaced (n + 2)⟩
      · exact List.forall_mem_append.mpr ⟨hline, List.forall_mem_cons.mpr ⟨rfl, h (n + 2)⟩⟩
  · refine List.forall_mem_cons.mpr ⟨rfl, List.forall_mem_cons.mpr ⟨rfl, List.forall_mem_append.mpr
      ⟨isVisible_of_mem_writeString key, List.forall_mem_append.mpr ⟨isVisible_of_mem_spaces, ?_⟩⟩⟩⟩
    exact List.forall_mem_cons.mpr ⟨rfl, List.forall_mem_cons.mpr ⟨rfl, h (n + 2)⟩⟩

mutual

theorem isVisible_of_mem_writeValue (v : Json.Value) (outer n : Nat) :
    ∀ c ∈ writeValue outer n v, isVisible c = true := by
  match v with
  | .null => exact List.all_eq_true.mp rfl
  | .bool true => exact List.all_eq_true.mp rfl
  | .bool false => exact List.all_eq_true.mp rfl
  | .number x =>
    rw [writeValue]
    exact List.forall_mem_append.mpr
      ⟨fun c hc => isVisible_of_isFigure ((writeNumber_figures x).2 c hc), List.all_eq_true.mp rfl⟩
  | .string s =>
    rw [writeValue]
    exact isVisible_of_mem_writeString s
  | .array items =>
    rw [writeValue]
    split
    · exact List.all_eq_true.mp rfl
    · exact isVisible_of_mem_writeItems items n true
  | .object members =>
    rw [writeValue]
    split
    · exact List.all_eq_true.mp rfl
    · exact isVisible_of_mem_writeEntries members n true

theorem isVisible_of_mem_writeItems (items : List Json.Value) (n : Nat) (first : Bool) :
    ∀ c ∈ writeItems n first items, isVisible c = true := by
  match items with
  | [] => exact fun c hc => by cases hc
  | item :: items =>
    rw [writeItems]
    refine List.forall_mem_append.mpr ⟨?_, List.forall_mem_cons.mpr ⟨rfl, List.forall_mem_cons.mpr ⟨rfl,
      List.forall_mem_append.mpr ⟨isVisible_of_mem_writeValue item n (n + 2),
        isVisible_of_mem_writeItems items n false⟩⟩⟩⟩
    split
    · exact fun c hc => by cases hc
    · exact isVisible_of_mem_spaces

theorem isVisible_of_mem_writeEntries (members : List (String × Json.Value)) (n : Nat) (first : Bool) :
    ∀ c ∈ writeEntries n first members, isVisible c = true := by
  match members with
  | [] => exact fun c hc => by cases hc
  | (key, value) :: members =>
    rw [writeEntries]
    refine List.forall_mem_append.mpr ⟨?_, List.forall_mem_append.mpr
      ⟨isVisible_of_mem_placeEntry fun m => isVisible_of_mem_writeValue value n m,
        isVisible_of_mem_writeEntries members n false⟩⟩
    split
    · exact fun c hc => by cases hc
    · exact isVisible_of_mem_spaces

end

/-! ## The stream -/

theorem isReadable_of_isVisible {c : Char} (h : isVisible c = true) : isReadable c = true := by
  have hvalid : c.toNat < 0xD800 ∨ (0xDFFF < c.toNat ∧ c.toNat < 0x110000) := c.valid
  simp only [isVisible, Bool.or_eq_true, Bool.and_eq_true, beq_iff_eq, decide_eq_true_eq, bne_iff_ne] at h
  simp only [isReadable, Bool.or_eq_true, Bool.and_eq_true, beq_iff_eq, decide_eq_true_eq]
  omega

theorem unifyBreaks_of_isVisible {cs : List Char} (h : ∀ c ∈ cs, isVisible c = true) : unifyBreaks cs = cs := by
  induction cs with
  | nil => rfl
  | cons c cs ih =>
    rw [List.forall_mem_cons] at h
    have hreturn : c ≠ '\r' := by
      rintro rfl
      exact absurd h.1 (by decide)
    have hnext : c ≠ '\u0085' := by
      rintro rfl
      exact absurd h.1 (by decide)
    rw [unifyBreaks, ih h.2, if_neg (not_or.mpr ⟨hreturn, hnext⟩)]
    intro rest heq
    exact absurd heq hreturn

namespace Lexer

variable {s : Lexer} {p : Cursor} {tokens : List Token}

theorem unroll_keys (column : Int) : (s.unroll column).keys = s.keys := by
  have hfrom : ∀ (outer : List Int) (s : Lexer), (unrollFrom column outer s).keys = s.keys := by
    intro outer
    induction outer with
    | nil => exact fun _ => rfl
    | cons parent outer ih =>
      intro s
      rw [unrollFrom]
      split
      · exact ih _
      · rfl
  rw [unroll]
  split
  · rfl
  · exact hfrom _ s

-- At the end of the stream nothing is left to read.
theorem reads_end (hrest : p.rest = []) (hcolumn : p.column = 0) (hindent : s.indent ≤ 0) :
    Reads (s.onto p true tokens) (some ((s.onto p true tokens).unroll (-1))) := by
  intro fuel hfuel
  cases fuel with
  | zero => cases hfuel
  | succ fuel =>
    have hcontent : StartsContent p.rest := by
      rw [hrest]
      trivial
    rw [run_succ, prepare_onto hcontent, Option.bind_some, hcolumn, unroll_of_le (by exact hindent), onto_cursor,
      hrest]
    dsimp only
    rw [finish, onto_cursor, if_pos hcolumn, dropKey_of_keys]
    · rfl
    · exact unroll_keys (-1)

theorem run_of_leads {cs : List Char} (h : Leads (start cs) (s.onto p true tokens)) (hrest : p.rest = [])
    (hcolumn : p.column = 0) (hindent : s.indent ≤ 0) :
    run (cs.length + 1) (start cs) = some ((s.onto p true tokens).unroll (-1)) :=
  h _ (reads_end hrest hcolumn hindent) _ (Nat.lt_succ_self _)

end Lexer

-- The text of a table is read as the tokens of its entries.
theorem tokens?_written (t : Table Json.Value) :
    tokens? (writeValue 0 0 (.object t)) = some (valueTokens false (.object t)) := by
  have hvisible := isVisible_of_mem_writeValue (.object t) 0 0
  have hmark : (writeValue 0 0 (.object t)).head? ≠ some byteOrderMark := by
    intro hhead
    exact absurd (hvisible _ (List.mem_of_mem_head? hhead)) (by decide)
  have hreadable : (writeValue 0 0 (.object t)).all isReadable = true :=
    List.all_eq_true.mpr fun c hc => isReadable_of_isVisible (hvisible c hc)
  rw [tokens?]
  dsimp only
  rw [if_neg hmark, if_pos hreadable, unifyBreaks_of_isVisible hvisible]
  cases t with
  | nil =>
    have hspot : (Lexer.start (writeValue 0 0 (.object []))).Spot 0
        ('\x7b' :: '\x7d' :: '\n' :: (spaces 0 ++ [])) :=
      ⟨rfl, rfl, rfl, by decide, rfl, rfl, by decide, by decide⟩
    have hclose : ∀ t : Lexer, t.cursor.rest = '\x7d' :: '\n' :: (spaces 0 ++ []) →
        t.fetch '\x7d' ('\n' :: (spaces 0 ++ [])) = t.closeFlow .closeMapping := by
      intro t hclosed
      simp [Lexer.fetch, Lexer.atDocumentMark_of_head hclosed (.inl (by decide))]
    obtain ⟨p, hrest, hcolumn, hleads⟩ :=
      hspot.leads_empty (by decide) ⟨rfl, rfl, by decide, by decide⟩ rfl hclose trivial
    rw [Lexer.run_of_leads hleads hrest hcolumn (by decide)]
    rfl
  | cons member members =>
    have hspot : (Lexer.start (writeValue 0 0 (.object (member :: members)))).Spot 0
        (writeEntries 0 true (member :: members) ++ (spaces 0 ++ [])) :=
      ⟨(List.append_nil _).symm, rfl, rfl, show (-1 : Int) ≤ 0 by decide,
        startsContent_writeEntries (List.cons_ne_nil _ _) _⟩
    obtain ⟨p, hrest, hcolumn, hleads⟩ := hspot.leads_members _ (List.cons_ne_nil _ _) rfl (Nat.le_refl 0) trivial
    rw [Lexer.run_of_leads hleads hrest hcolumn (by rw [Lexer.opened_indent hspot.indent]; rfl)]
    change some (Token.blockEnd :: ((memberTokens (member :: members)).reverse ++ [.blockMapping])).reverse = _
    rw [List.reverse_cons, List.reverse_append, List.reverse_reverse]
    rfl

end ChatAssistant.Yaml
