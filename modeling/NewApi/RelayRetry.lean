import NewApi.ChannelSelection

/-!
# The retry loop ends, and how many attempts it makes

The rank of a loop state counts the attempts that are left: those of the current
group, and one round of retries for every group after it.
-/

namespace NewApi

open GoStrings RankedLoops SelectionState List

def SelectionState.place (state : SelectionState) : Nat := state.autoGroupIndex.getD 0

section

variable {Candidate : Type} {settings : RetrySettings} {crossGroupRetry : Bool}
  {lookup : Lookup Candidate} {startGroupIndex place : Nat} {groups : List String}
  {state after : SelectionState} {selected : Selected Candidate}

/-- The place and the counter that a selection leaves: it stays with the group it has chosen, or,
when the retries of that group are used up, moves on to the group after it. -/
def SelectionLeaves (settings : RetrySettings) (crossGroupRetry : Bool) (priorityRetry : Nat)
    (group : Nat) (resetNextTry : Bool) (after : SelectionState) : Prop :=
  after = { autoGroupIndex := some group, retry := priorityRetry, resetNextTry } ∨
    crossGroupRetry = true ∧ settings.retryTimes ≤ priorityRetry ∧
      after = { autoGroupIndex := some (group + 1), retry := 0, resetNextTry := true }

theorem counter_of_fresh {retry : Nat} (fresh : startGroupIndex < place → retry = 0) :
    (if startGroupIndex < place then 0 else retry) = retry := by
  split
  next moved => exact (fresh moved).symm
  next => rfl

/-- What a successful search does: it stays with the first group it looks at, or skips to a later
one with the counter set back to zero. -/
theorem searchGroups_found (fresh : startGroupIndex < place → state.retry = 0)
    (notBefore : startGroupIndex ≤ place)
    (found : searchGroups settings crossGroupRetry lookup startGroupIndex groups place state =
      (after, some selected)) :
    place ≤ selected.group ∧ selected.group < place + groups.length ∧
      SelectionLeaves settings crossGroupRetry
        (if startGroupIndex < selected.group then 0 else state.retry) selected.group
        state.resetNextTry after ∧
      (crossGroupRetry = true → 0 < settings.retryTimes → after.retry < settings.retryTimes) := by
  induction groups generalizing place state with
  | nil => cases found
  | cons autoGroup groups ih =>
    have counter := counter_of_fresh fresh
    simp only [searchGroups,counter] at found
    split at found
    next =>
      obtain ⟨later,within,leaves,left⟩ := ih (fun _ => rfl) (by omega) found
      refine ⟨by omega,by simp only [length_cons]; omega,?_,left⟩
      rw [if_pos (by omega)] at leaves ⊢
      exact leaves
    next channel available =>
      split at found
      next exhausted =>
        rw [Bool.and_eq_true,decide_eq_true_eq] at exhausted
        cases found
        refine ⟨le_rfl,by simp,Or.inr ⟨exhausted.1,?_,rfl⟩,fun _ some => some⟩
        rw [counter]
        exact exhausted.2
      next stays =>
        cases found
        refine ⟨le_rfl,by simp,Or.inl ?_,fun cross _ => by simpa [cross] using stays⟩
        rw [counter]

variable {request : AutoRequest} {turns : Nat → RelayTurn Candidate}
  {state : RelayLoopState Candidate}

def attemptsFrom (settings : RetrySettings) (request : AutoRequest) (place retry : Nat) : Nat :=
  if settings.retryTimes < retry then 0
  else (request.autoGroups.length - place) * (settings.retryTimes + 1) - retry

def attemptsLeft (settings : RetrySettings) (request : AutoRequest)
    (state : RelayLoopState Candidate) : Nat :=
  if state.channelMeta then
    attemptsFrom settings request state.selection.place state.selection.retry
  else 1 + attemptsFrom settings request state.selection.place 1

/-- Before the first attempt the counter is zero, and after it a new turn counts from there. -/
def FreshStart (state : RelayLoopState Candidate) : Prop :=
  state.selection.resetNextTry = false ∧ (state.channelMeta = false → state.selection.retry = 0)

variable {retry number : Nat} {selection : SelectionState}

section

variable {place : Nat} (within : place < request.autoGroups.length)
  (mayRetry : retry ≤ settings.retryTimes)

include within mayRetry

theorem attemptsFrom_pos : 0 < attemptsFrom settings request place retry := by
  unfold attemptsFrom
  rw [if_neg (by omega)]
  have oneGroup : 1 * (settings.retryTimes + 1) ≤
      (request.autoGroups.length - place) * (settings.retryTimes + 1) :=
    Nat.mul_le_mul_right _ (by omega)
  omega

theorem attemptsFrom_succ_lt :
    attemptsFrom settings request place (retry + 1) < attemptsFrom settings request place retry := by
  have positive := attemptsFrom_pos within mayRetry
  by_cases more : settings.retryTimes < retry + 1
  · rwa [attemptsFrom, if_pos more]
  · unfold attemptsFrom at positive ⊢
    rw [if_neg (by omega)] at positive
    rw [if_neg more,if_neg (by omega)]
    omega

theorem attemptsFrom_later_lt {later : Nat} (moved : place < later) :
    attemptsFrom settings request later 0 < attemptsFrom settings request place retry := by
  unfold attemptsFrom
  rw [if_neg (by omega),if_neg (by omega)]
  have oneLess : (request.autoGroups.length - later + 1) * (settings.retryTimes + 1) ≤
      (request.autoGroups.length - place) * (settings.retryTimes + 1) :=
    Nat.mul_le_mul_right _ (by omega)
  rw [Nat.add_mul] at oneLess
  omega

end

theorem getChannel_first (first : state.channelMeta = false) :
    getChannel settings request lookup state = .ok (state.selection, state.current) := by
  simp [getChannel,first]

theorem getChannel_ok
    (chosen : getChannel settings request lookup state = .ok (selection, selected)) :
    state.channelMeta = false ∧ selection = state.selection ∧ selected = state.current ∨
      state.channelMeta = true ∧ state.selection.place ≤ selected.group ∧
        selected.group < request.autoGroups.length ∧
        SelectionLeaves settings request.crossGroupRetry
          (if state.selection.place < selected.group then 0 else state.selection.retry)
          selected.group state.selection.resetNextTry selection := by
  unfold getChannel at chosen
  split at chosen
  next first =>
    cases chosen
    exact Or.inl ⟨first,rfl,rfl⟩
  next again =>
    have isAgain : state.channelMeta = true := by simpa using again
    split at chosen
    next => cases chosen
    next => cases chosen
    next after found answered =>
      cases chosen
      unfold cacheGetRandomSatisfiedChannel at answered
      split at answered
      next => cases answered
      next =>
        have searched := Except.ok.inj answered
        obtain ⟨notBefore,within,leaves,-⟩ :=
          searchGroups_found (absurd · (lt_irrefl _)) le_rfl searched
        rw [length_drop] at within
        exact Or.inr ⟨isAgain,notBefore,by omega,leaves⟩

theorem relayRound_next {next : RelayLoopState Candidate}
    (continues : relayRound settings request turns number state = .next selected next) :
    state.selection.retry ≤ settings.retryTimes ∧ ∃ selection error,
      getChannel settings request (turns number).lookup state = .ok (selection, selected) ∧
      shouldRetry settings request error (settings.retryTimes - selection.retry) = true ∧
      next = { selection := selection.increaseRetry, current := selected, channelMeta := true
               newAPIError := some error } := by
  revert continues
  fun_cases relayRound settings request turns number state with
  | case5 mayRetry selection found chosen _ error _ retryable =>
    rintro ⟨⟩
    exact ⟨not_lt.mp mayRetry,selection,error,chosen,retryable,rfl⟩
  | _ => nofun

theorem relayRound_of_error {error : RelayError}
    (mayRetry : state.selection.retry ≤ settings.retryTimes)
    (chosen : getChannel settings request (turns number).lookup state = .ok (selection, selected))
    (unhindered : (turns number).obstacle = none) (failed : (turns number).answer = some error) :
    relayRound settings request turns number state =
      if shouldRetry settings request error (settings.retryTimes - selection.retry) then
        .next selected
          { selection := selection.increaseRetry, current := selected, channelMeta := true
            newAPIError := some error }
      else .stop [selected] (some error) := by
  unfold relayRound
  rw [if_neg (by omega),chosen]
  simp [unhindered,failed]

theorem relayRound_stop {attempts : List (Selected Candidate)} {result : Option RelayError}
    (stops : relayRound settings request turns number state = .stop attempts result) :
    attempts = [] ∨ state.selection.retry ≤ settings.retryTimes ∧ ∃ selection selected,
      getChannel settings request (turns number).lookup state = .ok (selection, selected) ∧
      attempts = [selected] := by
  revert stops
  fun_cases relayRound settings request turns number state with
  | case1 | case2 | case3 =>
    rintro ⟨⟩
    exact Or.inl rfl
  | case4 mayRetry selection found chosen | case6 mayRetry selection found chosen =>
    rintro ⟨⟩
    exact Or.inr ⟨not_lt.mp mayRetry,selection,found,chosen,rfl⟩
  | case5 => nofun

theorem attemptsFrom_increaseRetry_lt {group : Nat}
    (leaves : SelectionLeaves settings request.crossGroupRetry (if place < group then 0 else retry)
      group false selection) (notBefore : place ≤ group)
    (within : group < request.autoGroups.length) (mayRetry : retry ≤ settings.retryTimes) :
    attemptsFrom settings request selection.increaseRetry.place selection.increaseRetry.retry <
      attemptsFrom settings request place retry := by
  rcases leaves with rfl | ⟨-,-,rfl⟩
  · by_cases moved : place < group
    · rw [if_pos moved]
      exact (attemptsFrom_succ_lt within (Nat.zero_le _)).trans
        (attemptsFrom_later_lt (by omega) mayRetry moved)
    · have same : place = group := by omega
      rw [if_neg moved,same]
      exact attemptsFrom_succ_lt within mayRetry
  · show attemptsFrom settings request (group + 1) 0 < _
    exact attemptsFrom_later_lt (by omega) mayRetry (by omega)

theorem relayRound_ranked :
    Ranked (relayRound settings request turns) FreshStart (attemptsLeft settings request) where
  stop := by
    intro number state attempts result fresh stops
    rcases relayRound_stop stops with rfl | ⟨mayRetry,selection,selected,chosen,rfl⟩
    · exact Nat.zero_le _
    · rcases getChannel_ok chosen with ⟨first,-,-⟩ | ⟨again,notBefore,within,-⟩
      · simp only [attemptsLeft,first,Bool.false_eq_true,if_false,length_singleton]
        omega
      · have behind : state.selection.place < request.autoGroups.length := by omega
        simp only [attemptsLeft,again]
        exact attemptsFrom_pos behind mayRetry
  next := by
    intro number state selected next fresh continues
    obtain ⟨mayRetry,selection,error,chosen,-,rfl⟩ := relayRound_next continues
    rcases getChannel_ok chosen with ⟨first,rfl,-⟩ | ⟨again,notBefore,within,leaves⟩
    · have counted : state.selection.increaseRetry =
          { state.selection with retry := 1 } := by
        simp [increaseRetry,fresh.1,fresh.2 first]
      refine ⟨⟨?_,by simp⟩,?_⟩
      · simp [counted,fresh.1]
      · simp only [attemptsLeft,first,Bool.false_eq_true,if_false,counted]
        show attemptsFrom settings request state.selection.place 1 < _
        omega
    · rw [fresh.1] at leaves
      have falls := attemptsFrom_increaseRetry_lt leaves notBefore within mayRetry
      refine ⟨⟨?_,by simp⟩,?_⟩
      · rcases leaves with rfl | ⟨-,-,rfl⟩ <;> rfl
      · simpa [attemptsLeft,again] using falls

/-- The group of the first channel is not behind the place of the next selection. -/
def InPlace (state : RelayLoopState Candidate) : Prop :=
  state.channelMeta = false → state.current.group ≤ state.selection.place

/-- The place below which no attempt falls any more. -/
def groupFloor (state : RelayLoopState Candidate) : Nat :=
  if state.channelMeta then state.selection.place else state.current.group

theorem SelectionState.place_increaseRetry (state : SelectionState) :
    state.increaseRetry.place = state.place := by
  unfold increaseRetry
  split <;> rfl

theorem SelectionLeaves.group_le {resetNextTry : Bool} {priorityRetry group : Nat}
    (leaves : SelectionLeaves settings crossGroupRetry priorityRetry group resetNextTry after) :
    group ≤ after.place := by
  rcases leaves with rfl | ⟨-,-,rfl⟩
  · exact le_rfl
  · exact Nat.le_succ group

theorem relayRound_rising :
    Rising (relayRound settings request turns) InPlace Selected.group groupFloor where
  stop := by
    intro number state attempts result inPlace stops
    rcases relayRound_stop stops with rfl | ⟨-,selection,selected,chosen,rfl⟩
    · simp
    · refine ⟨pairwise_singleton _ _,fun attempt member => ?_⟩
      rw [mem_singleton.mp member]
      rcases getChannel_ok chosen with ⟨first,-,rfl⟩ | ⟨again,notBefore,-,-⟩
      · simp [groupFloor,first]
      · simpa [groupFloor,again] using notBefore
  next := by
    intro number state selected next inPlace continues
    obtain ⟨-,selection,error,chosen,-,rfl⟩ := relayRound_next continues
    refine ⟨fun impossible => by simp at impossible,?_⟩
    rw [groupFloor,groupFloor]
    simp only [place_increaseRetry]
    rcases getChannel_ok chosen with ⟨first,rfl,rfl⟩ | ⟨again,notBefore,-,leaves⟩
    · simp only [first]
      exact ⟨le_rfl,inPlace first⟩
    · simp only [again]
      exact ⟨notBefore,leaves.group_le⟩

end

section

variable {Candidate : Type} {settings : RetrySettings} {request : AutoRequest}
  {first : FirstChoice} {environment : RelayEnvironment Candidate}
  {start : RelayLoopState Candidate}

/-- What the loop promises: it ends, it makes no more attempts than the groups and retries allow,
and it never goes back to an earlier group. -/
structure RetriesBounded (settings : RetrySettings) (request : AutoRequest)
    (environment : RelayEnvironment Candidate) (start : RelayLoopState Candidate) : Prop where
  ends : ∃ fuel result, (relayLoop settings request environment fuel start).2 = some result
  bounded : ∀ fuel, (relayLoop settings request environment fuel start).1.length ≤
    if request.crossGroupRetry then request.autoGroups.length * (settings.retryTimes + 1)
    else settings.retryTimes + 1
  ordered : ∀ fuel, ((relayLoop settings request environment fuel start).1).Pairwise
    fun earlier later => earlier.group ≤ later.group

def FirstChoice.Within (first : FirstChoice) (request : AutoRequest) : Prop :=
  match first with
  | .selection => True
  | .affinity group => group < request.autoGroups.length

instance (first : FirstChoice) (request : AutoRequest) : Decidable (first.Within request) :=
  match first with
  | .selection => isTrue trivial
  | .affinity group => inferInstanceAs (Decidable (group < request.autoGroups.length))

/-- The distributor's choice does not lie behind the place where the loop goes on to search. -/
def FirstChoice.Leads (first : FirstChoice) : Prop :=
  first = .selection ∨ first = .affinity 0

/-- When the loop keeps its promise whatever happens: it never retries, or it may retry across
groups (or has only one) and its first channel comes from the front of the search. -/
def KeepsToGroups (settings : RetrySettings) (request : AutoRequest) (first : FirstChoice) : Prop :=
  settings.retryTimes = 0 ∨ request.skipRetryAfterAffinity = true ∨
    (request.crossGroupRetry = true ∨ request.autoGroups.length ≤ 1) ∧ first.Leads

instance (settings : RetrySettings) (request : AutoRequest) (first : FirstChoice) :
    Decidable (KeepsToGroups settings request first) :=
  inferInstanceAs (Decidable (_ ∨ _ ∨ (_ ∨ _) ∧ (_ ∨ _)))

structure Distributed (request : AutoRequest) (first : FirstChoice)
    (start : RelayLoopState Candidate) : Prop where
  someGroup : 0 < request.autoGroups.length
  fresh : FreshStart start
  unused : start.channelMeta = false
  inPlace : first.Leads → InPlace start

theorem distribute_start (within : first.Within request)
    (distributed : distribute settings request first environment = some start) :
    Distributed request first start := by
  cases first with
  | affinity =>
    cases distributed
    refine ⟨Nat.lt_of_le_of_lt (Nat.zero_le _) within,⟨rfl,fun _ => rfl⟩,rfl,?_⟩
    rintro (leads | leads) _
    · cases leads
    · cases leads
      exact le_rfl
  | selection =>
    unfold distribute at distributed
    split at distributed
    next impossible => cases impossible
    next =>
      split at distributed
      next selection selected answered =>
        cases distributed
        unfold cacheGetRandomSatisfiedChannel at answered
        split at answered
        next => cases answered
        next nonempty =>
          obtain ⟨-,-,leaves,-⟩ := searchGroups_found (absurd · (lt_irrefl _)) le_rfl
            (Except.ok.inj answered)
          exact ⟨length_pos_iff.mpr nonempty,⟨rfl,fun _ => rfl⟩,rfl,
            fun _ _ => leaves.group_le⟩
      next => cases distributed

theorem attemptsLeft_start_le (begins : Distributed request first start) :
    attemptsLeft settings request start ≤
      request.autoGroups.length * (settings.retryTimes + 1) := by
  have someGroup := begins.someGroup
  have oneRound : 1 * (settings.retryTimes + 1) ≤
      request.autoGroups.length * (settings.retryTimes + 1) := Nat.mul_le_mul_right _ someGroup
  simp only [attemptsLeft,begins.unused,Bool.false_eq_true,if_false,attemptsFrom]
  split
  · omega
  · have fewer : (request.autoGroups.length - start.selection.place) * (settings.retryTimes + 1) ≤
        request.autoGroups.length * (settings.retryTimes + 1) :=
      Nat.mul_le_mul_right _ (Nat.sub_le _ _)
    omega

theorem relayLoop_skipRetry (skips : request.skipRetryAfterAffinity = true) (fuel : Nat) :
    (relayLoop settings request environment fuel start).1.length ≤ 1 := by
  cases fuel with
  | zero => exact Nat.zero_le 1
  | succ =>
    unfold relayLoop
    cases turn : relayRound settings request environment.turns 0 start with
    | stop =>
      rw [loop_of_stop turn]
      rcases relayRound_stop turn with rfl | ⟨-,selection,selected,-,rfl⟩ <;> simp
    | next =>
      obtain ⟨-,selection,error,-,retryable,-⟩ := relayRound_next turn
      simp [shouldRetry,skips] at retryable

theorem pairwise_of_length_le_one {attempts : List (Selected Candidate)}
    (short : attempts.length ≤ 1) :
    attempts.Pairwise fun earlier later => earlier.group ≤ later.group := by
  match attempts, short with
  | [], _ => exact List.Pairwise.nil
  | [attempt], _ => exact pairwise_singleton _ attempt

theorem relayLoop_length_le (begins : Distributed request first start) (fuel : Nat) :
    (relayLoop settings request environment fuel start).1.length ≤
      attemptsLeft settings request start :=
  relayRound_ranked.length_le fuel begins.fresh

theorem relayLoop_ends (begins : Distributed request first start) :
    ∃ fuel result, (relayLoop settings request environment fuel start).2 = some result :=
  ⟨attemptsLeft settings request start + 1,
    relayRound_ranked.ends begins.fresh (Nat.lt_succ_self _)⟩

theorem attemptsLeft_without_retries (never : settings.retryTimes = 0)
    (begins : Distributed request first start) : attemptsLeft settings request start = 1 := by
  simp [attemptsLeft,begins.unused,attemptsFrom,never]

theorem retriesBounded_of_keepsToGroups (within : first.Within request)
    (keeps : KeepsToGroups settings request first)
    (distributed : distribute settings request first environment = some start) :
    RetriesBounded settings request environment start := by
  have begins := distribute_start within distributed
  have oneRound : 1 * (settings.retryTimes + 1) ≤
      request.autoGroups.length * (settings.retryTimes + 1) :=
    Nat.mul_le_mul_right _ begins.someGroup
  have once (short : ∀ fuel, (relayLoop settings request environment fuel start).1.length ≤ 1) :
      RetriesBounded settings request environment start :=
    { ends := relayLoop_ends begins
      bounded := fun fuel => by
        have := short fuel
        split <;> omega
      ordered := fun fuel => pairwise_of_length_le_one (short fuel) }
  rcases keeps with never | skips | ⟨crossOrOne,leads⟩
  · exact once fun fuel => attemptsLeft_without_retries never begins ▸
      relayLoop_length_le begins fuel
  · exact once (relayLoop_skipRetry skips)
  · refine ⟨relayLoop_ends begins,fun fuel => ?_,fun fuel =>
      relayRound_rising.pairwise fuel (begins.inPlace leads)⟩
    have atMost : (relayLoop settings request environment fuel start).1.length ≤
        request.autoGroups.length * (settings.retryTimes + 1) :=
      (relayLoop_length_le begins fuel).trans (attemptsLeft_start_le begins)
    split
    next => exact atMost
    next off =>
      have oneGroup : request.autoGroups.length = 1 := by
        have := begins.someGroup
        have := crossOrOne.resolve_left off
        omega
      rwa [oneGroup, Nat.one_mul] at atMost

/-! ### When the promise is broken -/

/-- An error of the channel, after which the loop retries whatever its counter says. -/
def channelFailure : RelayError where
  err := "no available key"
  errorCode := "channel:no_available_key"
  statusCode := 500
  skipRetry := false

theorem shouldRetry_channelFailure (retries : request.skipRetryAfterAffinity = false)
    (left : Int) : shouldRetry settings request channelFailure left = true := by
  have isChannel : channelFailure.isChannelError = true := by decide +kernel
  simp [shouldRetry,retries,isChannel]

def failingEnvironment (channel : Candidate) (empty : (turn place : Nat) → Bool) :
    RelayEnvironment Candidate where
  distributed _ _ _ := some channel
  preferred := channel
  turns turn :=
    { lookup := fun place _ _ => if empty turn place then none else some channel
      obstacle := none
      answer := some channelFailure }

abbrev counterAt (autoGroupIndex : Option Nat) (retry : Nat) : SelectionState where
  autoGroupIndex := autoGroupIndex
  retry := retry
  resetNextTry := false

abbrev unusedStart (autoGroupIndex : Option Nat) (current : Selected Candidate) :
    RelayLoopState Candidate where
  selection := counterAt autoGroupIndex 0
  current := current
  channelMeta := false
  newAPIError := none

def afterFailure (selection : SelectionState) (current : Selected Candidate) :
    RelayLoopState Candidate where
  selection := selection
  current := current
  channelMeta := true
  newAPIError := some channelFailure

variable {channel : Candidate} {empty : (turn place : Nat) → Bool} {number : Nat}
  {state : RelayLoopState Candidate} {selection after : SelectionState}
  {current selected : Selected Candidate}

theorem searchGroups_stays (settings : RetrySettings) (crossGroupRetry : Bool)
    (selection : SelectionState) {lookup : Lookup Candidate} {place : Nat}
    {groups : List String} (within : place < groups.length)
    (available : ∀ group retry, lookup place group retry = some channel) :
    ∃ after, searchGroups settings crossGroupRetry lookup place (groups.drop place) place selection =
        (after, some { channel, group := place }) ∧
      (crossGroupRetry = false → after = { selection with autoGroupIndex := some place }) := by
  rw [drop_eq_getElem_cons within]
  simp only [searchGroups,lt_irrefl,if_false,available]
  split
  next exhausted =>
    exact ⟨_,rfl,fun off => by simp [off] at exhausted⟩
  next => exact ⟨_,rfl,fun _ => rfl⟩

theorem distribute_failing (channel : Candidate)
    (empty : (turn place : Nat) → Bool) (off : request.crossGroupRetry = false)
    (someGroup : 0 < request.autoGroups.length) (leads : first.Leads) :
    ∃ index : Option Nat, index.getD 0 = 0 ∧
      distribute settings request first (failingEnvironment channel empty) =
        some (unusedStart index { channel, group := 0 }) := by
  rcases leads with rfl | rfl
  · have available : ∀ group retry, (failingEnvironment channel empty).distributed 0 group retry =
        some channel := fun _ _ => rfl
    obtain ⟨after,searched,unchanged⟩ := searchGroups_stays settings request.crossGroupRetry
      (counterAt none 0) someGroup available
    rw [unchanged off,drop_zero] at searched
    have nonempty : request.autoGroups ≠ [] := length_pos_iff.mp someGroup
    simp [distribute,cacheGetRandomSatisfiedChannel,nonempty,searched]
  · exact ⟨none,rfl,rfl⟩

abbrev AlwaysBounded (Candidate : Type) (settings : RetrySettings) (request : AutoRequest)
    (first : FirstChoice) : Prop :=
  ∀ (environment : RelayEnvironment Candidate) start,
    distribute settings request first environment = some start →
      RetriesBounded settings request environment start

/-- The first group is empty in the second turn and has a channel in all others. -/
def emptiesOnce (turn place : Nat) : Bool := decide (turn = 1 ∧ place = 0)

section

variable (retries : request.skipRetryAfterAffinity = false)

include retries

theorem relayRound_failing (mayRetry : state.selection.retry ≤ settings.retryTimes)
    (chosen : getChannel settings request ((failingEnvironment channel empty).turns number).lookup
      state = .ok (after, selected)) :
    relayRound settings request (failingEnvironment channel empty).turns number state =
      .next selected (afterFailure after.increaseRetry selected) := by
  rw [relayRound_of_error mayRetry chosen rfl rfl,if_pos (shouldRetry_channelFailure retries _)]
  rfl

theorem relayRound_first (index : Option Nat) :
    relayRound settings request (failingEnvironment channel empty).turns number
        (unusedStart index current) =
      .next current (afterFailure (counterAt index 1) current) :=
  relayRound_failing retries (Nat.zero_le _) (getChannel_first rfl)

theorem relayRound_again (mayRetry : selection.retry ≤ settings.retryTimes)
    (within : selection.place < request.autoGroups.length)
    (searched : searchGroups settings request.crossGroupRetry
      ((failingEnvironment channel empty).turns number).lookup selection.place
      (request.autoGroups.drop selection.place) selection.place selection =
        (after, some selected)) :
    relayRound settings request (failingEnvironment channel empty).turns number
        (afterFailure selection current) =
      .next selected (afterFailure after.increaseRetry selected) := by
  have nonempty : request.autoGroups ≠ [] := by
    intro none
    simp [none] at within
  apply relayRound_failing retries mayRetry
  unfold place at searched
  simp [getChannel,afterFailure,cacheGetRandomSatisfiedChannel,nonempty,searched]

theorem affinity_falls_back (current : Selected Candidate) (channel : Candidate)
    (mayRetry : 0 < settings.retryTimes) (someGroup : 0 < request.autoGroups.length) :
    ∃ rest, (relayLoop settings request (failingEnvironment channel fun _ _ => false) 2
      (unusedStart none current)).1 = current :: { channel, group := 0 } :: rest := by
  have available : ∀ group retry, ((failingEnvironment channel fun _ _ => false).turns 1).lookup 0
      group retry = some channel := by
    simp [failingEnvironment]
  obtain ⟨after,searched,-⟩ := searchGroups_stays settings request.crossGroupRetry
    (counterAt none 1) someGroup available
  have secondTurn : relayRound settings request (failingEnvironment channel fun _ _ => false).turns 1
      (afterFailure (counterAt none 1) current) = _ :=
    relayRound_again retries mayRetry someGroup searched
  unfold relayLoop
  rw [loop_of_next (relayRound_first retries none),loop_of_next secondTurn]
  exact ⟨_,rfl⟩

theorem not_bounded_of_step_back {group : Nat} (channel : Candidate)
    (mayRetry : 0 < settings.retryTimes) (within : group < request.autoGroups.length)
    (later : group ≠ 0) :
    ¬ AlwaysBounded Candidate settings request (.affinity group) := by
  intro promised
  obtain ⟨rest,attempts⟩ := affinity_falls_back retries { channel, group } channel
    mayRetry (Nat.lt_of_le_of_lt (Nat.zero_le _) within)
  have ordered := (promised (failingEnvironment channel fun _ _ => false) _ rfl).ordered 2
  rw [show (failingEnvironment channel fun _ _ => false).preferred = channel from rfl,attempts]
    at ordered
  have stepBack := (pairwise_cons.mp ordered).1 { channel, group := 0 } (by simp)
  exact later (Nat.le_zero.mp stepBack)

variable (off : request.crossGroupRetry = false)

include off

theorem loop_stays {place : Nat} (within : place < request.autoGroups.length) {left retry : Nat}
    (counted : retry + left = settings.retryTimes + 1)
    (never : ∀ turn, number ≤ turn → empty turn place = false) :
    (loop (relayRound settings request (failingEnvironment channel empty).turns) left number
      (afterFailure (counterAt (some place) retry) current)).1.length = left := by
  induction left generalizing number current retry with
  | zero => rfl
  | succ left ih =>
    have available : ∀ group retry, ((failingEnvironment channel empty).turns number).lookup place
        group retry = some channel := by
      simp [failingEnvironment,never number le_rfl]
    obtain ⟨after,searched,unchanged⟩ := searchGroups_stays settings request.crossGroupRetry
      (counterAt (some place) retry) within available
    rw [unchanged off] at searched
    have goesOn : relayRound settings request (failingEnvironment channel empty).turns number
        (afterFailure (counterAt (some place) retry) current) = _ :=
      relayRound_again retries (by show retry ≤ _; omega) within searched
    rw [loop_of_next goesOn,length_cons]
    congr 1
    exact ih (show retry + 1 + left = settings.retryTimes + 1 by omega)
      (fun turn later => never turn (by omega))

theorem extra_attempt (channel : Candidate) (twoGroups : 1 < request.autoGroups.length)
    (mayRetry : 0 < settings.retryTimes) {index : Option Nat} (front : index.getD 0 = 0) :
    (relayLoop settings request (failingEnvironment channel emptiesOnce) (settings.retryTimes + 2)
      (unusedStart index current)).1.length = settings.retryTimes + 2 := by
  have atFront : place (counterAt index 1) = 0 := front
  have searched : searchGroups settings request.crossGroupRetry
      ((failingEnvironment channel emptiesOnce).turns 1).lookup 0 (request.autoGroups.drop 0) 0
      (counterAt index 1) = (counterAt (some 1) 0, some { channel, group := 1 }) := by
    rw [off,drop_eq_getElem_cons (show 0 < request.autoGroups.length by omega),
      drop_eq_getElem_cons twoGroups]
    simp [searchGroups,failingEnvironment,emptiesOnce]
  have secondTurn : relayRound settings request (failingEnvironment channel emptiesOnce).turns 1
      (afterFailure (counterAt index 1) current) = .next { channel, group := 1 }
        (afterFailure (increaseRetry (counterAt (some 1) 0)) { channel, group := 1 }) :=
    relayRound_again retries (show 1 ≤ _ from mayRetry) (by omega) (by rwa [atFront])
  have rest : (loop (relayRound settings request (failingEnvironment channel emptiesOnce).turns)
      settings.retryTimes 2 (afterFailure (increaseRetry (counterAt (some 1) 0))
        { channel, group := 1 })).1.length = settings.retryTimes :=
    loop_stays retries off twoGroups (Nat.add_comm _ _) fun turn later => by
      simp only [emptiesOnce,decide_eq_false_iff_not]
      omega
  unfold relayLoop
  rw [loop_of_next (relayRound_first retries index),loop_of_next secondTurn,length_cons,
    length_cons,rest]

/-- Without cross-group retry and with two groups some request makes one attempt too many. -/
theorem not_bounded_of_extra_attempt (channel : Candidate)
    (twoGroups : 1 < request.autoGroups.length) (mayRetry : 0 < settings.retryTimes)
    (leads : first.Leads) : ¬ AlwaysBounded Candidate settings request first := by
  intro promised
  obtain ⟨index,front,distributed⟩ :=
    distribute_failing channel emptiesOnce off (Nat.zero_lt_of_lt twoGroups) leads
  have atMost := (promised _ _ distributed).bounded (settings.retryTimes + 2)
  rw [extra_attempt retries off channel twoGroups mayRetry front,off,if_neg Bool.false_ne_true]
    at atMost
  omega

end

end

/-- The retry loop keeps its promise in every environment exactly when it never retries, or may
retry across groups (or has only one) and its first channel was not preferred from a later
group. -/
theorem relay_retries_bounded_iff {Candidate : Type} [Inhabited Candidate]
    (settings : RetrySettings) (request : AutoRequest) (first : FirstChoice)
    (within : first.Within request) :
    (∀ (environment : RelayEnvironment Candidate) start,
      distribute settings request first environment = some start →
        RetriesBounded settings request environment start) ↔
      KeepsToGroups settings request first := by
  constructor
  · intro bounded
    by_contra breaks
    simp only [KeepsToGroups,not_or,not_and,Bool.not_eq_true] at breaks
    obtain ⟨retriesLeft,retries,elsewhere⟩ := breaks
    have mayRetry : 0 < settings.retryTimes := Nat.pos_of_ne_zero retriesLeft
    by_cases leads : first.Leads
    · have notCross : ¬ (request.crossGroupRetry = true ∨ request.autoGroups.length ≤ 1) :=
        fun crossOrOne => elsewhere crossOrOne leads
      rw [not_or,Bool.not_eq_true,not_le] at notCross
      exact not_bounded_of_extra_attempt retries notCross.1 default notCross.2 mayRetry leads bounded
    · cases first with
      | selection => exact leads (Or.inl rfl)
      | affinity group =>
        have later : group ≠ 0 := fun front => leads (Or.inr (by rw [front]))
        exact not_bounded_of_step_back retries default mayRetry within later bounded
  · intro keeps environment start distributed
    exact retriesBounded_of_keepsToGroups within keeps distributed

def oneRetry : RetrySettings where
  retryTimes := 1
  isAlwaysSkipRetryCode _ := false
  shouldRetryByStatusCode _ := true

def twoGroupRequest (crossGroupRetry : Bool) : AutoRequest where
  autoGroups := ["vip", "default"]
  crossGroupRetry := crossGroupRetry
  modelName := "gpt-4o"
  skipRetryAfterAffinity := false
  specificChannel := false

theorem two_groups_retried_in_order :
    FirstChoice.selection.Within (twoGroupRequest true) ∧
      ∀ (environment : RelayEnvironment Nat) start,
        distribute oneRetry (twoGroupRequest true) .selection environment = some start →
          RetriesBounded oneRetry (twoGroupRequest true) environment start :=
  ⟨trivial,(relay_retries_bounded_iff oneRetry (twoGroupRequest true) .selection trivial).mpr
    (by decide)⟩

/-- With one retry and cross-group retry off, the first group empties after the first attempt:
the loop moves on to the second group, starts to count again and makes three attempts. And with
cross-group retry on, a first channel preferred from the second group is followed by attempts in
the first one. -/
theorem retries_beyond_limit_and_order :
    (distribute oneRetry (twoGroupRequest false) .selection
        (failingEnvironment 7 emptiesOnce)).map (fun start =>
      (relayLoop oneRetry (twoGroupRequest false) (failingEnvironment 7 emptiesOnce) 9 start).1.map
        Selected.group) = some [0, 1, 1] ∧
    (distribute oneRetry (twoGroupRequest true) (.affinity 1)
        (failingEnvironment 7 fun _ _ => false)).map (fun start =>
      (relayLoop oneRetry (twoGroupRequest true) (failingEnvironment 7 fun _ _ => false) 9 start).1.map
        Selected.group) = some [1, 0, 1, 1] := by
  decide +kernel

end NewApi
