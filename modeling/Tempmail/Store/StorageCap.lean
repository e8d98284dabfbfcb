import Mathlib.Algebra.Order.Group.Int
import Tempmail.Lib.Eviction
import Tempmail.Store.Triggers

set_option autoImplicit false

namespace Tempmail.Store

def emailSize (row : EmailRow) : Nat := row.data.sizeBytes

-- enforce_storage_limit from its usage query on; the row count of the DELETE is
-- the number it returns.
def Db.enforceStorage (db : Db) (limitBytes : Nat) : Nat × Db :=
  if db.storageUsage ≤ limitBytes then (0, db)
  else
    let doomed := overLimit limitBytes 0 (db.emails.mergeSort newerFirst)
    (db.emails.countP (fun row => doomed.contains row.id), db.deleteEmails (fun row => doomed.contains row.id))

def Db.storageCleanup (db : Db) (maxStorageMb : Int) : Nat × Db :=
  if maxStorageMb ≤ 0 then (0, db) else db.enforceStorage (maxStorageMb.toNat * 1024 * 1024)

theorem storage_cleanup_db (db : Db) (maxStorageMb : Int) :
    (db.storageCleanup maxStorageMb).2 = db.enforceStorageLimit maxStorageMb := by
  unfold Db.storageCleanup Db.enforceStorageLimit Db.enforceStorage
  by_cases off : maxStorageMb ≤ 0
  · rw [if_pos off, if_pos off]
  · rw [if_neg off, if_neg off]
    by_cases within : db.storageUsage ≤ maxStorageMb.toNat * 1024 * 1024
    · simp only [if_pos within]
    · simp only [if_neg within]

theorem storage_usage_weight (db : Db) : db.storageUsage = Eviction.weight emailSize db.emails := by
  rw [Db.storageUsage]
  induction db.emails with
  | nil => rfl
  | cons row rest ih => rw [List.foldr_cons, ih, Eviction.weight_cons, emailSize]

section Order

theorem newer_first_iff (a b : EmailRow) :
    newerFirst a b = true ↔ b.data.receivedAt < a.data.receivedAt ∨ (b.data.receivedAt = a.data.receivedAt ∧ b.id ≤ a.id) := by
  simp [newerFirst]

theorem newer_first_total (a b : EmailRow) : newerFirst a b = true ∨ newerFirst b a = true := by
  rw [newer_first_iff, newer_first_iff]
  rcases lt_trichotomy a.data.receivedAt b.data.receivedAt with older | same | newer
  · exact Or.inr (Or.inl older)
  · rcases Nat.le_total a.id b.id with below | above
    · exact Or.inr (Or.inr ⟨same, below⟩)
    · exact Or.inl (Or.inr ⟨same.symm, above⟩)
  · exact Or.inl (Or.inl newer)

theorem newer_first_trans (a b c : EmailRow) (first : newerFirst a b = true) (second : newerFirst b c = true) :
    newerFirst a c = true := by
  rw [newer_first_iff] at first second ⊢
  rcases first with later | ⟨sameTime, below⟩
  · rcases second with earlier | ⟨same, -⟩
    · exact Or.inl (earlier.trans later)
    · exact Or.inl (same ▸ later)
  · rcases second with earlier | ⟨same, under⟩
    · exact Or.inl (sameTime ▸ earlier)
    · exact Or.inr ⟨same.trans sameTime, under.trans below⟩

theorem newer_first_strict (rows : List EmailRow) (ids : (rows.map EmailRow.id).Nodup) (a : EmailRow) (inA : a ∈ rows)
    (b : EmailRow) (inB : b ∈ rows) (first : newerFirst a b = true) (second : newerFirst b a = true) : a = b := by
  rw [newer_first_iff] at first second
  rcases first with later | ⟨same, below⟩
  · rcases second with earlier | ⟨same, -⟩
    · exact absurd earlier later.asymm
    · exact absurd same later.ne'
  · rcases second with earlier | ⟨-, above⟩
    · exact absurd same earlier.ne'
    · exact List.inj_on_of_nodup_map ids inA inB (Nat.le_antisymm above below)

def newestFirst (rows : List EmailRow) : List EmailRow := rows.mergeSort newerFirst

theorem newest_first_sorted (rows : List EmailRow) : (newestFirst rows).Pairwise (fun a b => newerFirst a b = true) :=
  List.pairwise_mergeSort (fun a b c first second => newer_first_trans a b c first second)
    (fun a b => by simpa using newer_first_total a b) rows

end Order

theorem over_limit_past (limit cum : Nat) (rows : List EmailRow) (past : limit < cum) :
    overLimit limit cum rows = rows.map EmailRow.id := by
  induction rows generalizing cum with
  | nil => rfl
  | cons row rest ih =>
      rw [overLimit, List.map_cons, if_pos (by omega), ih (cum + row.data.sizeBytes) (by omega)]

theorem over_limit_split (limit cum : Nat) (rows : List EmailRow) (within : cum ≤ limit) :
    ∃ dropped, rows = Eviction.longest emailSize (limit - cum) rows ++ dropped ∧
      overLimit limit cum rows = dropped.map EmailRow.id := by
  induction rows generalizing cum with
  | nil => exact ⟨[], rfl, rfl⟩
  | cons row rest ih =>
      by_cases fits : emailSize row ≤ limit - cum
      · have next : cum + row.data.sizeBytes ≤ limit := by
          simp only [emailSize] at fits
          omega
        obtain ⟨dropped, split, doomed⟩ := ih (cum + row.data.sizeBytes) next
        refine ⟨dropped, ?_, ?_⟩
        · rw [Eviction.longest, if_pos fits, List.cons_append, Nat.sub_sub, emailSize, ← split]
        · rw [overLimit, if_neg (by omega), doomed]
      · have beyond : limit < cum + row.data.sizeBytes := by
          simp only [emailSize] at fits
          omega
        refine ⟨row :: rest, by rw [Eviction.longest, if_neg fits, List.nil_append], ?_⟩
        rw [overLimit, if_pos beyond, over_limit_past limit _ rest beyond, List.map_cons]

def fitting (limitBytes : Nat) (rows : List EmailRow) : List EmailRow := Eviction.longest emailSize limitBytes (newestFirst rows)

theorem doomed_iff (limitBytes : Nat) (rows : List EmailRow) (ids : (rows.map EmailRow.id).Nodup) (row : EmailRow)
    (member : row ∈ rows) :
    (overLimit limitBytes 0 (newestFirst rows)).contains row.id = !decide (row ∈ fitting limitBytes rows) := by
  obtain ⟨dropped, split, doomed⟩ := over_limit_split limitBytes 0 (newestFirst rows) (Nat.zero_le _)
  rw [Nat.sub_zero] at split
  have same : (newestFirst rows).Perm rows := List.mergeSort_perm rows newerFirst
  have keys : ((newestFirst rows).map EmailRow.id).Nodup := (same.map EmailRow.id).nodup_iff.mpr ids
  rw [split, List.map_append, List.nodup_append] at keys
  have place := same.mem_iff.mpr member
  rw [split, List.mem_append] at place
  rw [doomed, Bool.eq_iff_iff, Bool.not_eq_true', decide_eq_false_iff_not, List.contains_iff_mem]
  constructor
  · intro gone kept
    exact keys.2.2 row.id (List.mem_map_of_mem kept) row.id gone rfl
  · intro outside
    exact List.mem_map_of_mem (place.resolve_left outside)

theorem enforce_storage_emails (db : Db) (limitBytes : Nat) (ids : (db.emails.map EmailRow.id).Nodup) :
    (db.enforceStorage limitBytes).2.emails = db.emails.filter (fun row => decide (row ∈ fitting limitBytes db.emails)) := by
  unfold Db.enforceStorage
  split
  · rename_i within
    rw [storage_usage_weight] at within
    have same : (newestFirst db.emails).Perm db.emails := List.mergeSort_perm db.emails newerFirst
    have whole : fitting limitBytes db.emails = newestFirst db.emails :=
      Eviction.longest_whole emailSize limitBytes _ (Eviction.weight_perm emailSize _ _ same ▸ within)
    refine (List.filter_eq_self.mpr fun row member => ?_).symm
    rw [whole]
    simpa using same.mem_iff.mpr member
  · dsimp only
    rw [delete_emails_eq db _ ids]
    refine List.filter_congr fun row member => ?_
    have doomed := doomed_iff limitBytes db.emails ids row member
    rw [newestFirst] at doomed
    dsimp only
    rw [doomed, Bool.not_not]

theorem enforce_storage_count (db : Db) (limitBytes : Nat) (ids : (db.emails.map EmailRow.id).Nodup) :
    (db.enforceStorage limitBytes).1 + (db.enforceStorage limitBytes).2.emails.length = db.emails.length := by
  unfold Db.enforceStorage
  split
  · exact Nat.zero_add _
  · dsimp only
    rw [delete_emails_eq db _ ids, List.countP_eq_length_filter]
    exact (List.length_eq_length_filter_add _).symm

structure CapKept (limitBytes : Nat) (stored left : List EmailRow) (deleted : Nat) : Prop where
  within : Eviction.weight emailSize left ≤ limitBytes
  spared : Eviction.weight emailSize stored ≤ limitBytes → left = stored
  greedy : left = Eviction.evict emailSize newerFirst limitBytes stored
  front : ∃ kept dropped, (kept ++ dropped).Perm stored ∧ (kept ++ dropped).Pairwise (fun a b => newerFirst a b = true) ∧
    kept.Perm left ∧ ∀ other, other <+: kept ++ dropped → Eviction.weight emailSize other ≤ limitBytes → other <+: kept
  newest : ∀ kept ∈ left, ∀ gone ∈ stored, gone ∉ left → newerFirst kept gone = true
  needed : ∀ gone ∈ stored, gone ∉ left → limitBytes < Eviction.weight emailSize (stored.filter (fun row => newerFirst row gone))
  counted : deleted + left.length = stored.length

section Kept

variable (limitBytes : Nat) (rows : List EmailRow)

theorem fitting_split : ∃ dropped, newestFirst rows = fitting limitBytes rows ++ dropped := by
  obtain ⟨dropped, split⟩ := Eviction.longest_leads emailSize limitBytes (newestFirst rows)
  exact ⟨dropped, split.symm⟩

theorem fitting_member (row : EmailRow) (kept : row ∈ fitting limitBytes rows) : row ∈ rows :=
  (List.mergeSort_perm rows newerFirst).mem_iff.mp
    ((Eviction.longest_leads emailSize limitBytes (newestFirst rows)).subset kept)

theorem fitting_perm (ids : (rows.map EmailRow.id).Nodup) :
    (fitting limitBytes rows).Perm (rows.filter (fun row => decide (row ∈ fitting limitBytes rows))) := by
  have same : (newestFirst rows).Perm rows := List.mergeSort_perm rows newerFirst
  have distinct : (newestFirst rows).Nodup := same.nodup_iff.mpr (List.Nodup.of_map EmailRow.id ids)
  obtain ⟨dropped, split⟩ := fitting_split limitBytes rows
  refine (List.perm_ext_iff_of_nodup ?_ ?_).mpr fun row => ?_
  · rw [split] at distinct
    exact (List.nodup_append.mp distinct).1
  · exact (List.Nodup.of_map EmailRow.id ids).filter _
  · rw [List.mem_filter, decide_eq_true_eq]
    exact ⟨fun kept => ⟨fitting_member limitBytes rows row kept, kept⟩, And.right⟩

theorem fitting_needed (ids : (rows.map EmailRow.id).Nodup) (gone : EmailRow) (member : gone ∈ rows)
    (outside : gone ∉ fitting limitBytes rows) :
    limitBytes < Eviction.weight emailSize (rows.filter (fun row => newerFirst row gone)) := by
  have same : (newestFirst rows).Perm rows := List.mergeSort_perm rows newerFirst
  obtain ⟨front, back, place⟩ := List.append_of_mem (same.mem_iff.mpr member)
  have sorted := newest_first_sorted rows
  rw [place, List.pairwise_append, List.pairwise_cons] at sorted
  obtain ⟨-, ⟨behind, -⟩, across⟩ := sorted
  have distinct : (newestFirst rows).Nodup := same.nodup_iff.mpr (List.Nodup.of_map EmailRow.id ids)
  have upTo : (newestFirst rows).filter (fun row => newerFirst row gone) = front ++ [gone] := by
    rw [place, List.filter_append, List.filter_cons_of_pos (by simpa using newer_first_total gone gone)]
    congr 1
    · exact List.filter_eq_self.mpr fun row inside => across row inside gone (by simp)
    · rw [List.cons.injEq]
      refine ⟨rfl, List.filter_eq_nil_iff.mpr fun row inside newer => ?_⟩
      have here : row ∈ rows := same.mem_iff.mp (by rw [place]; simp [inside])
      have equal := newer_first_strict rows ids row here gone member newer (behind row inside)
      rw [place] at distinct
      exact (List.nodup_cons.mp (List.nodup_append.mp distinct).2.1).1 (equal ▸ inside)
  rw [← Eviction.weight_perm emailSize _ _ (same.filter _), upTo]
  by_contra fits
  have lead : front ++ [gone] <+: newestFirst rows := ⟨back, by rw [place]; simp⟩
  have inside := Eviction.longest_maximal emailSize limitBytes _ _ lead (by omega)
  exact outside (inside.subset (by simp))

theorem fitting_newest (kept gone : EmailRow) (inside : kept ∈ fitting limitBytes rows)
    (member : gone ∈ rows) (outside : gone ∉ fitting limitBytes rows) : newerFirst kept gone = true := by
  obtain ⟨dropped, split⟩ := fitting_split limitBytes rows
  have sorted := newest_first_sorted rows
  have place := (List.mergeSort_perm rows newerFirst).mem_iff.mpr member
  change gone ∈ newestFirst rows at place
  rw [split] at sorted place
  have late := (List.mem_append.mp place).resolve_left outside
  exact (List.pairwise_append.mp sorted).2.2 kept inside gone late

end Kept

-- For every table of emails and every cap, given in bytes or in megabytes.
theorem storage_cap_kept (db : Db) (ids : (db.emails.map EmailRow.id).Nodup) :
    (∀ limitBytes, CapKept limitBytes db.emails (db.enforceStorage limitBytes).2.emails (db.enforceStorage limitBytes).1) ∧
      ∀ maxStorageMb : Int, 0 < maxStorageMb →
        db.storageCleanup maxStorageMb = db.enforceStorage (maxStorageMb.toNat * 1024 * 1024) := by
  constructor
  · intro limitBytes
    have left := enforce_storage_emails db limitBytes ids
    have perm := fitting_perm limitBytes db.emails ids
    have same : (newestFirst db.emails).Perm db.emails := List.mergeSort_perm db.emails newerFirst
    rw [← left] at perm
    obtain ⟨dropped, split⟩ := fitting_split limitBytes db.emails
    have inside : ∀ row ∈ db.emails, row ∉ (db.enforceStorage limitBytes).2.emails → row ∉ fitting limitBytes db.emails :=
      fun row _ gone kept => gone (perm.mem_iff.mp kept)
    refine ⟨?_, ?_, ?_, ⟨fitting limitBytes db.emails, dropped, ?_, ?_, perm, ?_⟩, ?_, ?_,
      enforce_storage_count db limitBytes ids⟩
    · rw [← Eviction.weight_perm emailSize _ _ perm]
      exact Eviction.longest_fits emailSize limitBytes _
    · intro within
      rw [Db.enforceStorage, if_pos (by rwa [storage_usage_weight])]
    · rw [left]
      exact (Eviction.evict_eq emailSize newerFirst newer_first_total newer_first_trans limitBytes _ db.emails same
        (newest_first_sorted db.emails) (List.Nodup.of_map EmailRow.id ids) (newer_first_strict db.emails ids)).symm
    · rw [← split]
      exact same
    · rw [← split]
      exact newest_first_sorted db.emails
    · intro other lead fits
      rw [← split] at lead
      exact Eviction.longest_maximal emailSize limitBytes _ other lead fits
    · intro kept known gone member outside
      exact fitting_newest limitBytes db.emails kept gone (perm.mem_iff.mpr known) member (inside gone member outside)
    · intro gone member outside
      exact fitting_needed limitBytes db.emails ids gone member (inside gone member outside)
  · intro maxStorageMb capped
    rw [Db.storageCleanup, if_neg (by omega)]

def threeEmails : Db := { emails := [sized 1 5 0, sized 2 5 4, sized 3 9 6] }

theorem three_emails_capped :
    CapKept 10 threeEmails.emails (threeEmails.enforceStorage 10).2.emails (threeEmails.enforceStorage 10).1 :=
  (storage_cap_kept threeEmails (by decide)).1 10

end Tempmail.Store
