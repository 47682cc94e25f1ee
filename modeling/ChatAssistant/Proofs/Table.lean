import ChatAssistant.Table

/-!
# Ascending tables

A table is built by putting one entry after another at its place, so that its keys ascend.  A table that
ascends is not changed when it is built again.  A set of keys is built in the same way.
-/

namespace ChatAssistant

namespace Table

variable {α : Type}

/-- The keys ascend, each key once. -/
def Ascending (t : Table α) : Prop := t.Pairwise fun a b => a.1 < b.1

theorem mem_of_mem_insert {key : String} {value : α} {t : Table α} {entry : String × α}
    (h : entry ∈ t.insert key value) : entry = (key, value) ∨ entry ∈ t := by
  induction t with
  | nil => exact .inl (List.mem_singleton.mp h)
  | cons first rest ih =>
    obtain ⟨k, v⟩ := first
    rw [insert] at h
    split at h
    · exact List.mem_cons.mp h
    · split at h
      · rcases List.mem_cons.mp h with h | h
        · exact .inl h
        · exact .inr (List.mem_cons_of_mem _ h)
      · rcases List.mem_cons.mp h with h | h
        · exact .inr (h ▸ List.mem_cons_self)
        · exact (ih h).imp id (List.mem_cons_of_mem _)

theorem Ascending.insert {t : Table α} (h : t.Ascending) (key : String) (value : α) :
    (t.insert key value).Ascending := by
  induction t with
  | nil => exact List.pairwise_singleton _ _
  | cons first rest ih =>
    obtain ⟨k, v⟩ := first
    obtain ⟨hfirst, hrest⟩ := List.pairwise_cons.mp h
    rw [Table.insert]
    split
    · next hlt =>
      refine List.pairwise_cons.mpr ⟨fun entry hentry => ?_, h⟩
      rcases List.mem_cons.mp hentry with rfl | hentry
      · exact hlt
      · exact String.lt_trans hlt (hfirst entry hentry)
    · next hlt =>
      split
      · next hkey =>
        exact List.pairwise_cons.mpr ⟨fun entry hentry => hkey ▸ hfirst entry hentry, hrest⟩
      · next hkey =>
        refine List.pairwise_cons.mpr ⟨fun entry hentry => ?_, ih hrest⟩
        rcases mem_of_mem_insert hentry with rfl | hentry
        · exact Std.lt_of_le_of_ne (String.not_lt.mp hlt) hkey
        · exact hfirst entry hentry

theorem ascending_ofList (entries : List (String × α)) : (ofList entries).Ascending :=
  List.foldlRecOn entries _ List.Pairwise.nil fun _ ht entry _ => ht.insert entry.1 entry.2

theorem mem_of_mem_ofList {entries : List (String × α)} {entry : String × α} (h : entry ∈ ofList entries) :
    entry ∈ entries := by
  refine List.foldlRecOn entries _ (motive := fun t => entry ∈ t → entry ∈ entries)
    (fun hnil => absurd hnil List.not_mem_nil) (fun t ht first hfirst hmem => ?_) h
  rcases mem_of_mem_insert hmem with rfl | hmem
  · exact hfirst
  · exact ht hmem

-- An entry behind all others is put at the end.
theorem insert_of_forall_lt {key : String} (value : α) {t : Table α} (h : ∀ entry ∈ t, entry.1 < key) :
    t.insert key value = t ++ [(key, value)] := by
  induction t with
  | nil => rfl
  | cons first rest ih =>
    obtain ⟨k, v⟩ := first
    rw [List.forall_mem_cons] at h
    have hne : k ≠ key := by
      rintro rfl
      exact String.lt_irrefl _ h.1
    rw [insert, if_neg (String.lt_asymm h.1), if_neg hne, ih h.2, List.cons_append]

theorem Ascending.ofList_eq {t : Table α} (h : t.Ascending) : ofList t = t := by
  have hfold : ∀ rest front : Table α, (front ++ rest).Ascending →
      rest.foldl (fun t entry => t.insert entry.1 entry.2) front = front ++ rest := by
    intro rest
    induction rest with
    | nil => exact fun front _ => (List.append_nil front).symm
    | cons entry rest ih =>
      intro front hfront
      have hlast : ∀ other ∈ front, other.1 < entry.1 := fun other hother =>
        (List.pairwise_append.mp hfront).2.2 other hother entry List.mem_cons_self
      have hassoc : front ++ entry :: rest = (front ++ [(entry.1, entry.2)]) ++ rest := by
        rw [List.append_assoc, List.singleton_append]
      rw [List.foldl_cons, insert_of_forall_lt entry.2 hlast, hassoc]
      exact ih _ (hassoc ▸ hfront)
  exact hfold t [] h

end Table

namespace KeySet

theorem pairwise_insert {set : KeySet} (h : set.Pairwise (· < ·)) (key : String) :
    (KeySet.insert key set).Pairwise (· < ·) := by
  induction set with
  | nil => exact List.pairwise_singleton _ _
  | cons first rest ih =>
    obtain ⟨hfirst, hrest⟩ := List.pairwise_cons.mp h
    rw [insert]
    split
    · next hlt =>
      refine List.pairwise_cons.mpr ⟨fun other hother => ?_, h⟩
      rcases List.mem_cons.mp hother with rfl | hother
      · exact hlt
      · exact String.lt_trans hlt (hfirst other hother)
    · next hlt =>
      split
      · exact h
      · next hne =>
        refine List.pairwise_cons.mpr ⟨fun other hother => ?_, ih hrest⟩
        rcases mem_insert.mp hother with rfl | hother
        · exact Std.lt_of_le_of_ne (String.not_lt.mp hlt) hne
        · exact hfirst other hother

theorem pairwise_ofList (keys : List String) : (ofList keys).Pairwise (· < ·) :=
  List.foldlRecOn keys _ List.Pairwise.nil fun _ hset key _ => pairwise_insert hset key

theorem nodup_ofList (keys : List String) : (ofList keys).Nodup :=
  (pairwise_ofList keys).imp String.ne_of_lt

end KeySet

end ChatAssistant
