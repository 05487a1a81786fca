import Mathlib.Tactic

/-!
# Sliding windows over a history of time stamps

A history lists the stamps of accepted events, oldest first. Its windows are
half-open intervals of a fixed span.
-/

namespace NewApi.SlidingWindow

open List

/-- The number of stamps in the half-open window of length `span` that begins at `start`. -/
def inWindow (span start : Int) (history : List Int) : Nat :=
  history.countP fun stamp => decide (start ≤ stamp ∧ stamp < start + span)

/-- The number of stamps in the last `span` units of time up to `now`. -/
def recent (span now : Int) (history : List Int) : Nat :=
  history.countP fun stamp => decide (now - span < stamp ∧ stamp ≤ now)

/-- No window holds more than `limit` stamps. -/
def Bounded (limit : Nat) (span : Int) (history : List Int) : Prop :=
  ∀ start, inWindow span start history ≤ limit

@[simp]
theorem bounded_nil (limit : Nat) (span : Int) : Bounded limit span [] := by
  intro start
  simp [inWindow]

variable {span now : Int} {history : List Int}

theorem Bounded.concat {limit : Nat} (bounded : Bounded limit span history)
    (past : ∀ stamp ∈ history, stamp ≤ now) (room : recent span now history < limit)
    : Bounded limit span (history ++ [now]) := by
  intro start
  unfold inWindow
  rw [countP_append]
  by_cases inside : start ≤ now ∧ now < start + span
  · -- every earlier stamp of this window is recent at the new stamp
    have fewer : inWindow span start history ≤ recent span now history := by
      apply countP_mono_left
      intro stamp member within
      simp only [decide_eq_true_eq] at within ⊢
      have := past stamp member
      omega
    unfold inWindow at fewer
    simp only [countP_singleton,decide_eq_true_eq,if_pos inside]
    omega
  · have := bounded start
    unfold inWindow at this
    simp only [countP_singleton,decide_eq_true_eq,if_neg inside]
    omega

theorem recent_append (span now : Int) (older newer : List Int) :
    recent span now (older ++ newer) = recent span now older + recent span now newer :=
  countP_append

theorem recent_le_length (span now : Int) (history : List Int) :
    recent span now history ≤ history.length :=
  countP_le_length

theorem recent_eq_zero (expired : ∀ stamp ∈ history, stamp + span ≤ now)
    : recent span now history = 0 := by
  apply countP_eq_zero.mpr
  intro stamp member within
  simp only [decide_eq_true_eq] at within
  have := expired stamp member
  omega

theorem recent_eq_length (young : ∀ stamp ∈ history, now - span < stamp ∧ stamp ≤ now) :
    recent span now history = history.length := by
  apply countP_eq_length.mpr
  intro stamp member
  simpa using young stamp member

/-- Whether a queue of the newest stamps has room at `now`: it is not full, or its oldest
stamp has left the window. -/
def hasRoom (limit : Nat) (span now : Int) (queue : List Int) : Bool :=
  decide (queue.length < limit) || queue.head?.any fun oldest => decide (span ≤ now - oldest)

/-- The queue with one more stamp; a full queue drops its oldest one. -/
def push (limit : Nat) (queue : List Int) (now : Int) : List Int :=
  if queue.length < limit then queue ++ [now] else queue.tail ++ [now]

/-- The queue stands for the history at a time no earlier than any of its stamps: what it has
dropped no longer matters to a window of length `span`. -/
structure Tracks (limit : Nat) (span clock : Int) (history queue : List Int) : Prop where
  ordered : history.Pairwise (· ≤ ·)
  past : ∀ stamp ∈ history, stamp ≤ clock
  short : queue.length ≤ limit
  kept : ∃ older, history = older ++ queue ∧
    (queue.length = limit ∨ ∀ stamp ∈ older, stamp + span ≤ clock)

namespace Tracks

variable {limit : Nat} {span clock now : Int} {history queue : List Int}

theorem empty (limit : Nat) (span clock : Int) : Tracks limit span clock [] [] where
  ordered := List.Pairwise.nil
  past := by simp
  short := Nat.zero_le limit
  kept := ⟨[],rfl,Or.inr (by simp)⟩

variable (tracks : Tracks limit span clock history queue)

include tracks

theorem later (after : clock ≤ now) :
    Tracks limit span now history queue where
  ordered := tracks.ordered
  past stamp member := (tracks.past stamp member).trans after
  short := tracks.short
  kept := by
    obtain ⟨older,split,full | expired⟩ := tracks.kept
    · exact ⟨older,split,Or.inl full⟩
    · exact ⟨older,split,Or.inr fun stamp member => (expired stamp member).trans after⟩

/-- A queue whose stamps have all left the window may be dropped. -/
theorem forget
    (expired : ∀ stamp ∈ history, stamp + span ≤ clock) : Tracks limit span clock history [] where
  ordered := tracks.ordered
  past := tracks.past
  short := Nat.zero_le limit
  kept := ⟨history, by simp, Or.inr expired⟩

theorem le_getLast {newest : Int}
    (last : queue.getLast? = some newest) {stamp : Int} (member : stamp ∈ history) :
    stamp ≤ newest := by
  obtain ⟨older,split,-⟩ := tracks.kept
  obtain ⟨front,rfl⟩ := getLast?_eq_some_iff.mp last
  have ordered := tracks.ordered
  rw [split,← append_assoc,pairwise_append] at ordered
  rw [split,← append_assoc,mem_append] at member
  rcases member with before | newestOne
  · exact ordered.2.2 stamp before newest (by simp)
  · simp only [mem_singleton] at newestOne
    exact newestOne.le

theorem push (positive : 0 < limit) :
    Tracks limit span clock (history ++ [clock]) (SlidingWindow.push limit queue clock) where
  ordered := by
    rw [pairwise_append]
    refine ⟨tracks.ordered,pairwise_singleton _ _,fun stamp member newest isClock => ?_⟩
    simp only [mem_singleton] at isClock
    exact isClock ▸ tracks.past stamp member
  past stamp member := by
    rcases mem_append.mp member with before | isClock
    · exact tracks.past stamp before
    · exact (mem_singleton.mp isClock).le
  short := by
    have := tracks.short
    unfold SlidingWindow.push
    split
    · simp only [length_append,length_singleton]
      omega
    · simp only [length_append,length_tail,length_singleton]
      omega
  kept := by
    obtain ⟨older,split,settled⟩ := tracks.kept
    have short := tracks.short
    unfold SlidingWindow.push
    by_cases notFull : queue.length < limit
    · rw [if_pos notFull]
      have expired := settled.resolve_left (by omega)
      exact ⟨older,by rw [split,append_assoc],Or.inr expired⟩
    · -- a full queue hands its oldest stamp over and stays full
      rw [if_neg notFull]
      cases queue with
      | nil => simp at notFull; omega
      | cons oldest =>
        refine ⟨older ++ [oldest],by simp [split],Or.inl ?_⟩
        simp only [length_cons,tail_cons,length_append,
          length_nil] at notFull short ⊢
        omega

/-- Looking at the queue alone decides whether the window that ends now has room. -/
theorem hasRoom_iff (positive : 0 < limit) :
    hasRoom limit span clock queue = true ↔ recent span clock history < limit := by
  obtain ⟨older,split,settled⟩ := tracks.kept
  have short := tracks.short
  have ordered := tracks.ordered
  have past := tracks.past
  rw [split] at ordered past ⊢
  rw [recent_append]
  by_cases notFull : queue.length < limit
  · have expired := settled.resolve_left (by omega)
    have := recent_le_length span clock queue
    simp only [hasRoom,notFull,decide_true,Bool.true_or,recent_eq_zero expired,true_iff]
    omega
  · cases queue with
    | nil => simp at notFull; omega
    | cons oldest rest =>
      have olderFirst : ∀ stamp ∈ older, stamp ≤ oldest := fun stamp member =>
        (pairwise_append.mp ordered).2.2 stamp member oldest (by simp)
      have restAfter : ∀ stamp ∈ rest, oldest ≤ stamp :=
        (pairwise_cons.mp (pairwise_append.mp ordered).2.1).1
      simp only [hasRoom,notFull,decide_false,Bool.false_or,head?_cons,Option.any_some,
        decide_eq_true_eq]
      constructor
      · intro left
        -- the oldest stamp of a full queue has left, so at most the others are recent
        have olderGone : recent span clock (older ++ [oldest]) = 0 := by
          apply recent_eq_zero
          intro stamp member
          rcases mem_append.mp member with before | isOldest
          · have := olderFirst stamp before
            omega
          · simp only [mem_singleton] at isOldest
            omega
        rw [recent_append] at olderGone
        have rest_le := recent_le_length span clock rest
        have cut : recent span clock (oldest :: rest) =
            recent span clock [oldest] + recent span clock rest :=
          recent_append span clock [oldest] rest
        simp only [length_cons] at short
        omega
      · by_contra still
        have allRecent : recent span clock (oldest :: rest) = (oldest :: rest).length := by
          apply recent_eq_length
          intro stamp member
          have := past stamp (mem_append_right older member)
          rcases mem_cons.mp member with isOldest | newer
          · omega
          · have := restAfter stamp newer
            omega
        omega

end Tracks

end NewApi.SlidingWindow
