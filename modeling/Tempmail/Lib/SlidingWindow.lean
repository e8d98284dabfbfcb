import Mathlib.Data.List.Basic
import Mathlib.Data.List.Induction
import Mathlib.Data.List.TakeWhile
import Mathlib.Order.Lattice

set_option autoImplicit false

-- Sliding windows over a log of instants: an instant is live at now while its age
-- is below width. A limiter keeps a queue of instants instead of the whole log; the
-- lemmas say when that queue still knows everything it must.
namespace SlidingWindow

-- How old an instant is at now, by a subtraction that may round.
structure Clock (T Age : Type) [LinearOrder T] [LinearOrder Age] where
  age : T → T → Age
  later : ∀ instant now next, now ≤ next → age now instant ≤ age next instant
  earlier : ∀ now first second, first ≤ second → age now second ≤ age now first

variable {T Age : Type} [LinearOrder T] [LinearOrder Age] (clock : Clock T Age)

def live (width : Age) (now : T) (log : List T) : List T := log.filter (fun instant => decide (clock.age now instant < width))

def prune (width : Age) (now : T) (queue : List T) : List T :=
  queue.dropWhile (fun instant => decide (width ≤ clock.age now instant))

def Remembers (width : Age) (now : T) (log queue : List T) : Prop :=
  ∃ forgotten, log = forgotten ++ queue ∧ ∀ instant ∈ forgotten, width ≤ clock.age now instant

theorem live_append (width : Age) (now : T) (first second : List T) :
    live clock width now (first ++ second) = live clock width now first ++ live clock width now second := by
  simp [live]

theorem live_expired (width : Age) (now : T) (log : List T) (expired : ∀ instant ∈ log, width ≤ clock.age now instant) :
    live clock width now log = [] := by
  apply List.filter_eq_nil_iff.mpr
  intro instant member
  simpa using expired instant member

theorem live_map_filter {Item : Type} (width : Age) (now : T) (time : Item → T) (chosen : Item → Bool) (items : List Item) :
    (live clock width now ((items.filter chosen).map time)).length =
      items.countP (fun item => chosen item && decide (clock.age now (time item) < width)) := by
  rw [live, List.filter_map, List.length_map, List.filter_filter, List.countP_eq_length_filter]
  simp only [Function.comp_apply, Bool.and_comm]

omit [LinearOrder T] in
theorem logged_split {Item : Type} (time : Item → T) (chosen : Item → Bool) (items : List Item) (earlier later : List T)
    (instant : T) (split : (items.filter chosen).map time = earlier ++ instant :: later) :
    ∃ before item after, items = before ++ item :: after ∧ chosen item = true ∧ time item = instant ∧
      (before.filter chosen).map time = earlier := by
  obtain ⟨front, back, kept, front_eq, back_eq⟩ := List.map_eq_append_iff.mp split
  obtain ⟨item, rest, back_cons, item_eq, -⟩ := List.map_eq_cons_iff.mp back_eq
  subst back_cons
  obtain ⟨first, second, items_eq, first_eq, second_eq⟩ := List.filter_eq_append_iff.mp kept
  obtain ⟨skipped, after, second_split, none, here, -⟩ := List.filter_eq_cons_iff.mp second_eq
  refine ⟨first ++ skipped, item, after, by rw [items_eq, second_split, List.append_assoc], here, item_eq, ?_⟩
  rw [List.filter_append, first_eq, List.filter_eq_nil_iff.mpr none, List.append_nil, front_eq]

theorem live_two_kinds {Item : Type} (width : Age) (now : T) (time : Item → T) (whole left right : Item → Bool)
    (items : List Item) (split : ∀ item ∈ items, (whole item).toNat = (left item).toNat + (right item).toNat) :
    (live clock width now ((items.filter whole).map time)).length =
      (live clock width now ((items.filter left).map time)).length +
      (live clock width now ((items.filter right).map time)).length := by
  simp only [live_map_filter]
  induction items with
  | nil => rfl
  | cons item rest ih =>
      have here := split item (by simp)
      have there := ih (fun other member => split other (by simp [member]))
      simp only [List.countP_cons, there]
      cases inWhole : whole item <;> cases inLeft : left item <;> cases inRight : right item <;>
        simp [inWhole, inLeft, inRight] at here ⊢ <;> omega

theorem remembers_pruned (width : Age) (now : T) (log queue : List T) (known : Remembers clock width now log queue) :
    Remembers clock width now log (prune clock width now queue) := by
  obtain ⟨forgotten, split, expired⟩ := known
  refine ⟨forgotten ++ queue.takeWhile (fun instant => decide (width ≤ clock.age now instant)), ?_, ?_⟩
  · rw [List.append_assoc, prune, List.takeWhile_append_dropWhile, split]
  · intro instant member
    rcases List.mem_append.mp member with old | dropped
    · exact expired instant old
    · simpa using List.mem_takeWhile_imp dropped

theorem remembers_push (width : Age) (now instant : T) (log queue : List T) (known : Remembers clock width now log queue) :
    Remembers clock width now (log ++ [instant]) (queue ++ [instant]) := by
  obtain ⟨forgotten, split, expired⟩ := known
  exact ⟨forgotten, by rw [split, List.append_assoc], expired⟩

theorem remembers_nothing (width : Age) (now : T) (log : List T) (expired : ∀ instant ∈ log, width ≤ clock.age now instant) :
    Remembers clock width now log [] :=
  ⟨log, by simp, expired⟩

theorem expired_later (width : Age) (now later instant : T) (order : now ≤ later) (expired : width ≤ clock.age now instant) :
    width ≤ clock.age later instant :=
  expired.trans (clock.later instant now later order)

theorem prune_sorted (width : Age) (now : T) (queue : List T) (sorted : queue.Pairwise (· ≤ ·)) :
    prune clock width now queue = live clock width now queue := by
  induction queue with
  | nil => rfl
  | cons head tail ih =>
      obtain ⟨before, rest⟩ := List.pairwise_cons.mp sorted
      by_cases expired : width ≤ clock.age now head
      · have dropped : ¬ clock.age now head < width := not_lt.mpr expired
        have unrolled := ih rest
        simp only [prune, live] at unrolled
        simp [prune, live, expired, dropped, unrolled]
      · have kept : clock.age now head < width := not_le.mp expired
        have tailKept : ∀ instant ∈ tail, clock.age now instant < width := by
          intro instant member
          exact (clock.earlier now head instant (before instant member)).trans_lt kept
        have whole : tail.filter (fun instant => decide (clock.age now instant < width)) = tail :=
          List.filter_eq_self.mpr (by simpa using tailKept)
        simp [prune, live, expired, kept, whole]

theorem remembers_later (width : Age) (now later : T) (log queue : List T) (order : now ≤ later)
    (known : Remembers clock width now log queue) : Remembers clock width later log queue := by
  obtain ⟨forgotten, split, expired⟩ := known
  exact ⟨forgotten, split, fun instant member => expired_later clock width now later instant order (expired instant member)⟩

theorem remembers_prune (width : Age) (now : T) (log queue : List T) (sorted : log.Pairwise (· ≤ ·))
    (known : Remembers clock width now log queue) : prune clock width now queue = live clock width now log := by
  obtain ⟨forgotten, split, expired⟩ := known
  subst split
  have queueSorted := (List.pairwise_append.mp sorted).2.1
  rw [prune_sorted clock width now queue queueSorted, live_append,
    live_expired clock width now forgotten expired, List.nil_append]

def Paced (limit : Nat) (width : Age) (log : List T) : Prop :=
  ∀ earlier instant later, log = earlier ++ instant :: later → (live clock width instant earlier).length < limit

-- A window that holds more than limit instants holds one admitted too early.
theorem paced_window (limit : Nat) (width : Age) (log : List T) (sorted : log.Pairwise (· ≤ ·))
    (paced : Paced clock limit width log) (last : T) :
    ((live clock width last log).filter (fun instant => decide (instant ≤ last))).length ≤ limit := by
  induction log using List.reverseRecOn with
  | nil => simp [live]
  | append_singleton earlier newest ih =>
      obtain ⟨earlierSorted, -, across⟩ := List.pairwise_append.mp sorted
      have earlierPaced : Paced clock limit width earlier := by
        intro front instant back split
        exact paced front instant (back ++ [newest]) (by rw [split]; simp)
      have bound := ih earlierSorted earlierPaced
      rw [live_append, List.filter_append, List.length_append]
      by_cases inside : clock.age last newest < width ∧ newest ≤ last
      · have fewer := paced earlier newest [] rfl
        have subset : ((live clock width last earlier).filter (fun instant => decide (instant ≤ last))).length ≤
            (live clock width newest earlier).length := by
          rw [live, live, List.filter_filter]
          apply List.Sublist.length_le
          apply List.monotone_filter_right
          intro instant holds
          simp only [Bool.and_eq_true, decide_eq_true_eq] at holds ⊢
          exact (clock.later instant newest last inside.2).trans_lt holds.2
        have single : ((live clock width last [newest]).filter (fun instant => decide (instant ≤ last))).length ≤ 1 :=
          (List.length_filter_le _ _).trans (List.length_filter_le _ _)
        omega
      · have outside : (live clock width last [newest]).filter (fun instant => decide (instant ≤ last)) = [] := by
          by_cases alive : clock.age last newest < width
          · have future : ¬ newest ≤ last := fun reached => inside ⟨alive, reached⟩
            simp [live, alive, future]
          · simp [live, alive]
        simpa [outside] using bound

end SlidingWindow
