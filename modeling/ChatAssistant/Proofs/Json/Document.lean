import ChatAssistant.Json.Raw
import ChatAssistant.Proofs.Json.Spelling

/-!
# JSON documents as texts

The tokens of a document are fixed: brackets around its items and members, commas between them.  A text
is read as a document exactly where it writes the tokens of that document.
-/

namespace ChatAssistant.Json.Raw

/-! ## The tokens of a document -/

mutual

/-- The tokens of a document. -/
def tokens : Raw → List Token
  | null => [.null]
  | bool b => [.bool b]
  | number t => [.number t]
  | string s => [.string s]
  | array items => .openArray :: itemTokens items
  | object members => .openObject :: memberTokens members

/-- The items of an array and its end. -/
def itemTokens : List Raw → List Token
  | [] => [.closeArray]
  | item :: rest => tokens item ++ moreItemTokens rest

def moreItemTokens : List Raw → List Token
  | [] => [.closeArray]
  | item :: rest => .comma :: (tokens item ++ moreItemTokens rest)

/-- The members of an object and its end. -/
def memberTokens : List (List Piece × Raw) → List Token
  | [] => [.closeObject]
  | (key, value) :: rest => .string key :: .colon :: (tokens value ++ moreMemberTokens rest)

def moreMemberTokens : List (List Piece × Raw) → List Token
  | [] => [.closeObject]
  | (key, value) :: rest =>
    .comma :: .string key :: .colon :: (tokens value ++ moreMemberTokens rest)

end

/-! ## What has been read -/

/-- Items with a comma after each, the last one first. -/
def itemsRead : List Raw → List Token
  | [] => []
  | item :: before => itemsRead before ++ (item.tokens ++ [.comma])

/-- Members with a comma after each, the last one first. -/
def membersRead : List (List Piece × Raw) → List Token
  | [] => []
  | (key, value) :: before =>
    membersRead before ++ (.string key :: .colon :: (value.tokens ++ [.comma]))

theorem itemTokens_eq (before : List Raw) (item : Raw) (rest : List Raw) :
    itemTokens (before.reverse ++ item :: rest) =
      itemsRead before ++ (item.tokens ++ moreItemTokens rest) := by
  induction before generalizing item rest with
  | nil => rfl
  | cons last before ih =>
    rw [List.reverse_cons, List.append_assoc, List.singleton_append, ih, itemsRead]
    simp only [moreItemTokens, List.append_assoc, List.singleton_append]

theorem memberTokens_eq (before : List (List Piece × Raw)) (key : List Piece) (value : Raw)
    (rest : List (List Piece × Raw)) :
    memberTokens (before.reverse ++ (key, value) :: rest) =
      membersRead before ++ (.string key :: .colon :: (value.tokens ++ moreMemberTokens rest)) := by
  induction before generalizing key value rest with
  | nil => rfl
  | cons last before ih =>
    rw [List.reverse_cons, List.append_assoc, List.singleton_append, ih, membersRead]
    simp only [moreMemberTokens, List.append_assoc, List.cons_append, List.nil_append]

/-- The tokens of the containers that are open. -/
def framesRead : List Frame → List Token
  | [] => []
  | .array items :: frames => framesRead frames ++ (.openArray :: itemsRead items)
  | .member members key :: frames =>
    framesRead frames ++ (.openObject :: (membersRead members ++ [.string key, .colon]))

/-- The tokens that lead to a state. -/
def State.HasRead : State → List Token → Prop
  | value frames, read => read = framesRead frames
  | arrayStart frames, read => read = framesRead frames ++ [.openArray]
  | arrayRest frames items, read =>
    ∃ item before, items = item :: before ∧ read = framesRead (.array before :: frames) ++ item.tokens
  | objectStart frames, read => read = framesRead frames ++ [.openObject]
  | key frames members, read => read = framesRead frames ++ (.openObject :: membersRead members)
  | colon frames members name, read =>
    read = framesRead frames ++ (.openObject :: (membersRead members ++ [.string name]))
  | objectRest frames members, read =>
    ∃ name item before, members = (name, item) :: before ∧
      read = framesRead (.member before name :: frames) ++ item.tokens
  | complete tree, read => read = tree.tokens

theorem hasRead_settle (value : Raw) (frames : List Frame) :
    (settle value frames).HasRead (framesRead frames ++ value.tokens) := by
  cases frames with
  | nil => rfl
  | cons frame frames =>
    cases frame with
    | array items => exact ⟨value, items, rfl, rfl⟩
    | member members name => exact ⟨name, value, members, rfl, rfl⟩

theorem hasRead_startValue {frames : List Frame} {token : Token} {next : State}
    (h : startValue frames token = some next) : next.HasRead (framesRead frames ++ [token]) := by
  cases token <;> cases h
  case null => exact hasRead_settle .null frames
  case bool b => exact hasRead_settle (.bool b) frames
  case number t => exact hasRead_settle (.number t) frames
  case string s => exact hasRead_settle (.string s) frames
  case openArray => rfl
  case openObject => rfl

theorem State.HasRead.step {state next : State} {read : List Token} {token : Token}
    (hread : state.HasRead read) (h : state.step token = some next) :
    next.HasRead (read ++ [token]) := by
  cases state with
  | value frames =>
    cases hread
    exact hasRead_startValue h
  | arrayStart frames =>
    cases hread
    simp only [State.step] at h
    split at h
    · next hclose =>
      cases h
      subst hclose
      have hsettle := hasRead_settle (.array []) frames
      simpa [tokens, itemTokens] using hsettle
    · exact hasRead_startValue h
  | arrayRest frames items =>
    obtain ⟨item, before, rfl, rfl⟩ := hread
    match token, h with
    | .comma, rfl => simp [State.HasRead, framesRead, itemsRead]
    | .closeArray, rfl =>
      have hsettle := hasRead_settle (.array (item :: before).reverse) frames
      rw [List.reverse_cons, tokens, itemTokens_eq] at hsettle
      simpa [framesRead, moreItemTokens] using hsettle
  | objectStart frames =>
    cases hread
    match token, h with
    | .string name, rfl => simp [State.HasRead, membersRead]
    | .closeObject, rfl =>
      have hsettle := hasRead_settle (.object []) frames
      simpa [tokens, memberTokens] using hsettle
  | key frames members =>
    cases hread
    match token, h with
    | .string name, rfl => simp [State.HasRead]
  | colon frames members name =>
    cases hread
    match token, h with
    | .colon, rfl => simp [State.HasRead, framesRead]
  | objectRest frames members =>
    obtain ⟨name, item, before, rfl, rfl⟩ := hread
    match token, h with
    | .comma, rfl => simp [State.HasRead, framesRead, membersRead]
    | .closeObject, rfl =>
      have hsettle := hasRead_settle (.object ((name, item) :: before).reverse) frames
      rw [List.reverse_cons, tokens, memberTokens_eq] at hsettle
      simpa [framesRead, moreMemberTokens] using hsettle
  | complete value => cases h

theorem State.HasRead.run {state final : State} {read more : List Token}
    (hread : state.HasRead read) (h : Raw.run state more = some final) :
    final.HasRead (read ++ more) := by
  induction more generalizing state read with
  | nil =>
    cases h
    rwa [List.append_nil]
  | cons token rest ih =>
    rw [Raw.run] at h
    split at h
    · next next hstep =>
      rw [List.append_cons]
      exact ih (hread.step hstep) h
    · cases h

/-! ## What is accepted -/

theorem run_cons_of_step {state next : State} {token : Token} (h : state.step token = some next)
    (rest : List Token) : run state (token :: rest) = run next rest := by
  rw [run, h]

theorem run_arrayStart (item : Raw) (frames : List Frame) (rest : List Token) :
    run (.arrayStart frames) (item.tokens ++ rest) =
      run (.value (.array [] :: frames)) (item.tokens ++ rest) := by
  cases item <;> simp [tokens, run, State.step]

mutual

theorem run_tokens (value : Raw) (frames : List Frame) (rest : List Token) :
    run (.value frames) (value.tokens ++ rest) = run (settle value frames) rest := by
  cases value with
  | null | bool | number | string => rfl
  | array items => exact run_itemTokens items frames rest
  | object members => exact run_memberTokens members frames rest

theorem run_itemTokens (items : List Raw) (frames : List Frame) (rest : List Token) :
    run (.arrayStart frames) (itemTokens items ++ rest) = run (settle (.array items) frames) rest := by
  cases items with
  | nil => rfl
  | cons item more =>
    rw [itemTokens, List.append_assoc, run_arrayStart, run_tokens item]
    exact run_moreItemTokens more [item] frames rest

theorem run_moreItemTokens (items before : List Raw) (frames : List Frame) (rest : List Token) :
    run (.arrayRest frames before) (moreItemTokens items ++ rest) =
      run (settle (.array (before.reverse ++ items)) frames) rest := by
  cases items with
  | nil =>
    rw [List.append_nil]
    rfl
  | cons item more =>
    rw [moreItemTokens, List.cons_append, List.append_assoc,
      run_cons_of_step (show (State.arrayRest frames before).step .comma = _ from rfl),
      run_tokens item, List.append_cons, ← List.reverse_cons]
    exact run_moreItemTokens more (item :: before) frames rest

theorem run_memberTokens (members : List (List Piece × Raw)) (frames : List Frame)
    (rest : List Token) :
    run (.objectStart frames) (memberTokens members ++ rest) =
      run (settle (.object members) frames) rest := by
  cases members with
  | nil => rfl
  | cons member more =>
    obtain ⟨key, value⟩ := member
    rw [memberTokens, List.cons_append, List.cons_append, List.append_assoc]
    change run (.value (.member [] key :: frames)) _ = _
    rw [run_tokens value]
    exact run_moreMemberTokens more [(key, value)] frames rest

theorem run_moreMemberTokens (members before : List (List Piece × Raw)) (frames : List Frame)
    (rest : List Token) :
    run (.objectRest frames before) (moreMemberTokens members ++ rest) =
      run (settle (.object (before.reverse ++ members)) frames) rest := by
  cases members with
  | nil =>
    rw [List.append_nil]
    rfl
  | cons member more =>
    obtain ⟨key, value⟩ := member
    rw [moreMemberTokens, List.cons_append, List.cons_append, List.cons_append, List.append_assoc]
    change run (.value (.member before key :: frames)) _ = _
    rw [run_tokens value, List.append_cons, ← List.reverse_cons]
    exact run_moreMemberTokens more ((key, value) :: before) frames rest

end

theorem ofTokens?_eq_some_iff {toks : List Token} {value : Raw} :
    ofTokens? toks = some value ↔ toks = value.tokens := by
  constructor
  · intro h
    unfold ofTokens? at h
    split at h
    · next hrun =>
      cases h
      exact (show (State.value []).HasRead [] from rfl).run hrun
    · cases h
  · rintro rfl
    have hrun := run_tokens value [] []
    rw [List.append_nil] at hrun
    rw [ofTokens?, hrun]
    rfl

/-! ## Words and numbers stand apart -/

theorem isBare_of_step_settle {value : Raw} {frames : List Frame} {token : Token} {next : State}
    (h : (settle value frames).step token = some next) : token.isBare = false := by
  cases frames with
  | nil => cases h
  | cons frame frames =>
    cases frame <;> cases token <;> first | rfl | cases h

theorem exists_settle_of_startValue {frames : List Frame} {token : Token} {next : State}
    (h : startValue frames token = some next) (hbare : token.isBare = true) :
    ∃ value, next = settle value frames := by
  cases token <;> cases h <;> first | exact ⟨_, rfl⟩ | cases hbare

theorem exists_settle_of_step {state next : State} {token : Token}
    (h : state.step token = some next) (hbare : token.isBare = true) :
    ∃ value frames, next = settle value frames := by
  cases state with
  | value frames => 
    obtain ⟨value, hvalue⟩ := exists_settle_of_startValue h hbare
    exact ⟨value, frames, hvalue⟩
  | arrayStart frames =>
    simp only [State.step] at h
    split at h
    · next hclose => subst hclose; cases hbare
    · obtain ⟨value, hvalue⟩ := exists_settle_of_startValue h hbare
      exact ⟨value, _, hvalue⟩
  | complete => cases h
  | arrayRest | objectStart | key | colon | objectRest =>
    cases token <;> cases hbare <;> cases h

theorem apart_of_run {state final : State} {toks : List Token} (h : run state toks = some final) :
    Apart toks := by
  induction toks generalizing state with
  | nil => exact .nil
  | cons token rest ih =>
    rw [run] at h
    split at h
    · next next hstep =>
      refine List.isChain_cons.mpr ⟨fun second hsecond hbare => ?_, ih h⟩
      obtain ⟨value, frames, rfl⟩ := exists_settle_of_step hstep hbare
      cases rest with
      | nil => cases hsecond
      | cons second' rest =>
        cases hsecond
        rw [run] at h
        split at h
        · next hnext => exact isBare_of_step_settle hnext
        · cases h
    · cases h

theorem apart_tokens (value : Raw) : Apart value.tokens := by
  have hrun := run_tokens value [] []
  rw [List.append_nil] at hrun
  exact apart_of_run hrun

/-! ## Texts -/

/-- A text is read as a document exactly where it writes the tokens of the document. -/
theorem parse?_eq_some_iff {s : String} {value : Raw} :
    parse? s = some value ↔ Writes s.toList value.tokens := by
  rw [parse?, Option.bind_eq_some_iff]
  constructor
  · rintro ⟨toks, htoks, hvalue⟩
    cases ofTokens?_eq_some_iff.mp hvalue
    exact (tokens?_eq_some_iff (apart_tokens value)).mp htoks
  · intro h
    exact ⟨value.tokens, (tokens?_eq_some_iff (apart_tokens value)).mpr h,
      ofTokens?_eq_some_iff.mpr rfl⟩

end ChatAssistant.Json.Raw
