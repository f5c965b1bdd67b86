import CeServer.Memory

/-!
Batch formation: which entries of the backlog one pass takes, and what is left
of the backlog when they are erased.
-/

namespace CeServer.Memory

variable {Thread : Type} {items : ItemId → BacklogItem Thread} {pid : Int32}

theorem takeBatch_sublist (requestedSoFar : UInt64) (taken : Nat) (order : List BacklogEntry) :
    (takeBatch items pid requestedSoFar taken order).Sublist order := by
  induction order generalizing requestedSoFar taken with
  | nil => exact List.Sublist.refl _
  | cons entry rest ih =>
      simp only [takeBatch]
      split
      · exact (ih _ _).cons _
      · split
        · exact List.nil_sublist _
        · apply List.Sublist.cons_cons
          split
          · exact List.nil_sublist _
          · exact ih _ _

theorem takeBatch_pid {requestedSoFar : UInt64} {taken : Nat} {order : List BacklogEntry}
    {entry : BacklogEntry} (member : entry ∈ takeBatch items pid requestedSoFar taken order) :
    (items entry.2).pid = pid := by
  induction order generalizing requestedSoFar taken with
  | nil => simp [takeBatch] at member
  | cons first rest ih =>
      simp only [takeBatch] at member
      split at member
      · exact ih member
      · rename_i same
        split at member
        · simp at member
        · rcases List.mem_cons.mp member with rfl | later
          · exact not_not.mp same
          · split at later
            · simp at later
            · exact ih later

theorem dispatchBuffer_sublist (order : List BacklogEntry) :
    (dispatchBuffer items order).Sublist order := by
  cases order with
  | nil => exact List.Sublist.refl _
  | cons first rest => exact takeBatch_sublist 0 0 (first :: rest)

theorem dispatchBuffer_pid {first entry : BacklogEntry} {rest : List BacklogEntry}
    (member : entry ∈ dispatchBuffer items (first :: rest)) :
    (items entry.2).pid = (items first.2).pid :=
  takeBatch_pid member

/-- The pass takes something exactly when the first item it meets is below the
byte limit by itself. -/
theorem dispatchBuffer_cons_eq_nil (first : BacklogEntry) (rest : List BacklogEntry) :
    dispatchBuffer items (first :: rest) = [] ↔
      MAX_BYTES_PER_DISPATCH ≤ (items first.2).size := by
  simp only [dispatchBuffer, takeBatch, ne_eq, not_true_eq_false, if_false]
  rw [UInt64.zero_add]
  split
  · rename_i large
    simpa using large
  · rename_i small
    simpa using small

section Find

variable {backlog : Backlog} {key other : BacklogKey} {item : ItemId}

theorem find_insert : Backlog.find (backlog.insert key item) key = some item :=
  AList.lookup_insert backlog

theorem find_insert_of_ne (apart : other ≠ key) :
    Backlog.find (backlog.insert key item) other = backlog.find other :=
  AList.lookup_insert_ne apart

theorem find_erase : Backlog.find (backlog.erase key) key = none :=
  AList.lookup_erase key backlog

theorem find_erase_of_ne (apart : other ≠ key) :
    Backlog.find (backlog.erase key) other = backlog.find other :=
  AList.lookup_erase_ne apart

theorem find_eraseBatch_of_mem {batch : List BacklogEntry} (taken : key ∈ batch.map Sigma.fst) :
    (eraseBatch batch backlog).find key = none := by
  have stays (rest : List BacklogEntry) (backlog : Backlog) (missing : backlog.find key = none) :
      (eraseBatch rest backlog).find key = none := by
    induction rest generalizing backlog with
    | nil => exact missing
    | cons entry rest ih =>
        refine ih _ ?_
        by_cases same : key = entry.1
        · rw [same, find_erase]
        · rw [find_erase_of_ne same, missing]
  induction batch generalizing backlog with
  | nil => simp at taken
  | cons entry rest ih =>
      rw [List.map_cons] at taken
      rcases List.mem_cons.mp taken with same | later
      · refine stays rest _ ?_
        rw [same, find_erase]
      · exact ih later

theorem find_eraseBatch_of_notMem {batch : List BacklogEntry}
    (spared : key ∉ batch.map Sigma.fst) :
    (eraseBatch batch backlog).find key = backlog.find key := by
  induction batch generalizing backlog with
  | nil => rfl
  | cons entry rest ih =>
      simp only [List.map_cons, List.mem_cons, not_or] at spared
      change (eraseBatch rest (backlog.erase entry.1)).find key = _
      rw [ih spared.2, find_erase_of_ne spared.1]

theorem find_of_eraseBatch {batch : List BacklogEntry}
    (found : (eraseBatch batch backlog).find key = some item) :
    key ∉ batch.map Sigma.fst ∧ backlog.find key = some item := by
  have spared : key ∉ batch.map Sigma.fst := by
    intro taken
    rw [find_eraseBatch_of_mem taken] at found
    simp at found
  rw [find_eraseBatch_of_notMem spared] at found
  exact ⟨spared, found⟩

end Find

theorem find_of_mem_order {backlog : Backlog} {order : List BacklogEntry}
    (perm : order.Perm backlog.entries) {entry : BacklogEntry} (member : entry ∈ order) :
    backlog.find entry.1 = some entry.2 :=
  AList.mem_lookup_iff.mpr (perm.mem_iff.mp member)

theorem find_of_mem_dispatchBuffer {backlog : Backlog} {order : List BacklogEntry}
    (perm : order.Perm backlog.entries) {entry : BacklogEntry}
    (member : entry ∈ dispatchBuffer items order) : backlog.find entry.1 = some entry.2 :=
  find_of_mem_order perm ((dispatchBuffer_sublist order).subset member)

theorem nodup_keys_dispatchBuffer (items : ItemId → BacklogItem Thread) {backlog : Backlog}
    {order : List BacklogEntry}
    (perm : order.Perm backlog.entries) :
    ((dispatchBuffer items order).map Sigma.fst).Nodup := by
  refine List.Nodup.sublist ((dispatchBuffer_sublist order).map _) ?_
  exact (perm.map Sigma.fst).nodup_iff.mpr backlog.nodupKeys

theorem perm_erase {backlog : Backlog} {key : BacklogKey} {item : ItemId}
    (found : backlog.find key = some item) :
    (⟨key, item⟩ :: (backlog.erase key).entries).Perm backlog.entries := by
  have present : key ∈ backlog.keys := by
    have some : (backlog.lookup key).isSome = true := by
      change (backlog.find key).isSome = true
      rw [found]
      rfl
    exact AList.lookup_isSome.mp some
  obtain ⟨stored, front, back, _, whole, erased⟩ := List.exists_of_kerase present
  have member : ⟨key, stored⟩ ∈ backlog.entries := by
    rw [whole]
    exact List.mem_append_right _ List.mem_cons_self
  have same : stored = item :=
    Option.some.inj ((AList.mem_lookup_iff.mpr member).symm.trans found)
  change (_ :: List.kerase key backlog.entries).Perm backlog.entries
  rw [erased, whole, same]
  exact List.perm_middle.symm

/-- What a batch takes and what it leaves are the backlog before. -/
theorem perm_eraseBatch {backlog : Backlog} {batch : List BacklogEntry}
    (nodup : (batch.map Sigma.fst).Nodup)
    (found : ∀ entry ∈ batch, backlog.find entry.1 = some entry.2) :
    (batch ++ (eraseBatch batch backlog).entries).Perm backlog.entries := by
  induction batch generalizing backlog with
  | nil => exact List.Perm.refl _
  | cons entry rest ih =>
      rw [List.map_cons, List.nodup_cons] at nodup
      have remain (other : BacklogEntry) (member : other ∈ rest) :
          Backlog.find (backlog.erase entry.1) other.1 = some other.2 := by
        rw [find_erase_of_ne, found other (List.mem_cons_of_mem _ member)]
        intro same
        exact nodup.1 (List.mem_map.mpr ⟨other, member, same⟩)
      have others := (ih nodup.2 remain).cons entry
      exact others.trans (perm_erase (found entry List.mem_cons_self))

theorem length_eraseBatch {backlog : Backlog} {batch : List BacklogEntry}
    (nodup : (batch.map Sigma.fst).Nodup)
    (found : ∀ entry ∈ batch, backlog.find entry.1 = some entry.2) :
    (eraseBatch batch backlog).entries.length + batch.length = backlog.entries.length := by
  rw [Nat.add_comm, ← List.length_append]
  exact (perm_eraseBatch nodup found).length_eq

theorem mem_of_mem_eraseBatch {backlog : Backlog} {batch : List BacklogEntry}
    {entry : BacklogEntry} (member : entry ∈ (eraseBatch batch backlog).entries) :
    entry ∈ backlog.entries :=
  AList.mem_lookup_iff.mp (find_of_eraseBatch (AList.mem_lookup_iff.mpr member)).2

end CeServer.Memory
