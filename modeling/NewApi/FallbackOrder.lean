import NewApi.PriorityLookup
import NewApi.RelayRetry

/-!
# The order in which a failing request falls back

Documented is every priority of every group once, from the highest to the lowest.
-/

namespace NewApi

open RankedLoops SelectionState List Selected

/-! ### The attempts, group by group -/

def groupByGroup (priorities : String → List Int) :
    List String → (place : Nat) → List (Nat × Int)
  | [], _ => []
  | group :: groups, place =>
    (priorities group).map (Prod.mk place) ++ groupByGroup priorities groups (place + 1)

/-- The priorities tried in one group from a retry number on: one for each try that is left, until
a lookup finds nothing. -/
def prioritiesTried (answer : Nat → Option Int) : (retry left : Nat) → List Int
  | _, 0 => []
  | retry, left + 1 =>
    match answer retry with
    | none => []
    | some priority => priority :: prioritiesTried answer (retry + 1) left

/-- The attempts over the groups that are left. The retry number is that of the first group; the
others start from zero. -/
def fallbackAttempts (answer : String → Nat → Option Int) (retryTimes : Nat) :
    List String → (place retry : Nat) → List (Nat × Int)
  | [], _, _ => []
  | group :: groups, place, retry =>
    (prioritiesTried (answer group) retry (retryTimes + 1 - retry)).map (Prod.mk place) ++
      groupByGroup (fun group => prioritiesTried (answer group) 0 (retryTimes + 1)) groups
        (place + 1)

section

variable {answer : String → Nat → Option Int} {retryTimes place retry : Nat} {group : String}
  {groups : List String}

theorem fallbackAttempts_zero :
    fallbackAttempts answer retryTimes groups place 0 =
      groupByGroup (fun group => prioritiesTried (answer group) 0 (retryTimes + 1)) groups
        place := by
  cases groups <;> rfl

theorem fallbackAttempts_none (mayRetry : retry ≤ retryTimes) (nothing : answer group retry = none) :
    fallbackAttempts answer retryTimes (group :: groups) place retry =
      fallbackAttempts answer retryTimes groups (place + 1) 0 := by
  have oneTry : retryTimes + 1 - retry = retryTimes - retry + 1 := by omega
  rw [fallbackAttempts_zero,fallbackAttempts,oneTry,prioritiesTried,nothing]
  rfl

theorem fallbackAttempts_some {priority : Int} (mayRetry : retry ≤ retryTimes)
    (answered : answer group retry = some priority) :
    fallbackAttempts answer retryTimes (group :: groups) place retry =
      (place, priority) ::
        fallbackAttempts answer retryTimes (group :: groups) place (retry + 1) := by
  have oneTry : retryTimes + 1 - retry = retryTimes - retry + 1 := by omega
  simp [fallbackAttempts,oneTry,prioritiesTried,answered]

theorem fallbackAttempts_exhausted :
    fallbackAttempts answer retryTimes (group :: groups) place (retryTimes + 1) =
      fallbackAttempts answer retryTimes groups (place + 1) 0 := by
  rw [fallbackAttempts_zero,fallbackAttempts,Nat.sub_self]
  rfl

end

/-! ### The loop makes these attempts -/

section

variable {settings : RetrySettings} {request : AutoRequest} {answer : String → Nat → Option Int}

def Selected.tag (selected : Selected Routed) : Nat × Int :=
  (selected.group, selected.channel.priority)

/-- The lookups answer with these priorities, whatever channel they draw. -/
def AnswersWith (lookup : Lookup Routed) (answer : String → Nat → Option Int) : Prop :=
  ∀ place group retry, (lookup place group retry).map Routed.priority = answer group retry

def attemptsAfter (answer : String → Nat → Option Int) (settings : RetrySettings)
    (request : AutoRequest) (selection : SelectionState) : List (Nat × Int) :=
  fallbackAttempts answer settings.retryTimes (request.autoGroups.drop selection.place)
    selection.place selection.retry

variable {lookup : Lookup Routed} {after : SelectionState} {number fuel : Nat}
  {state : RelayLoopState Routed} {selected : Selected Routed}

/-- A search with cross-group retry takes the first of the attempts and leaves the others. -/
theorem searchGroups_attempts (answers : AnswersWith lookup answer) {all groups : List String}
    {startGroupIndex place : Nat} {state : SelectionState} {found : Option (Selected Routed)}
    (fresh : startGroupIndex < place → state.retry = 0)
    (mayRetry : state.retry ≤ settings.retryTimes) (unset : state.resetNextTry = false)
    (rest : all.drop place = groups)
    (searched : searchGroups settings true lookup startGroupIndex groups place state =
      (after, found)) :
    fallbackAttempts answer settings.retryTimes groups place state.retry =
      found.elim [] fun selected => selected.tag ::
        fallbackAttempts answer settings.retryTimes (all.drop after.increaseRetry.place)
          after.increaseRetry.place after.increaseRetry.retry := by
  induction groups generalizing place state with
  | nil =>
    cases searched
    rfl
  | cons autoGroup groups ih =>
    have restLater : all.drop (place + 1) = groups := by
      rw [← drop_drop,rest]
      rfl
    have counter := counter_of_fresh fresh
    have answered := answers place autoGroup state.retry
    simp only [searchGroups,counter] at searched
    cases looked : lookup place autoGroup state.retry with
    | none =>
      rw [looked] at searched answered
      rw [fallbackAttempts_none mayRetry answered.symm]
      have nextGroup : searchGroups settings true lookup startGroupIndex groups (place + 1)
          { state with autoGroupIndex := some (place + 1), retry := 0 } = (after, found) := searched
      refine ih ?_ ?_ ?_ restLater nextGroup
      · exact fun _ => rfl
      · exact Nat.zero_le _
      · exact unset
    | some =>
      rw [looked] at searched answered
      rw [fallbackAttempts_some mayRetry answered.symm]
      dsimp only at searched
      split at searched
      next exhausted =>
        rw [Bool.and_eq_true,decide_eq_true_eq] at exhausted
        cases searched
        have used : state.retry = settings.retryTimes := le_antisymm mayRetry exhausted.2
        rw [used,fallbackAttempts_exhausted]
        show _ = tag _ ::
          fallbackAttempts answer settings.retryTimes (all.drop (place + 1)) (place + 1) 0
        rw [restLater]
        rfl
      next =>
        cases searched
        have goesOn : increaseRetry { state with autoGroupIndex := some place } =
            { autoGroupIndex := some place, retry := state.retry + 1, resetNextTry := false } := by
          simp [increaseRetry,unset]
        rw [goesOn]
        show _ = tag _ ::
          fallbackAttempts answer settings.retryTimes (all.drop place) place (state.retry + 1)
        rw [rest]
        rfl

/-- The turns of a request whose attempts all fail, in groups that do not change. -/
structure FailingTurns (settings : RetrySettings) (request : AutoRequest)
    (turns : Nat → RelayTurn Routed) (answer : String → Nat → Option Int) : Prop where
  lookups : ∀ number, AnswersWith (turns number).lookup answer
  unhindered : ∀ number, (turns number).obstacle = none
  fails : ∀ number, ∃ error, (turns number).answer = some error ∧
    ∀ left : Int, 0 < left → shouldRetry settings request error left = true

variable {turns : Nat → RelayTurn Routed}

theorem FailingTurns.next (failing : FailingTurns settings request turns answer)
    {selection : SelectionState} (mayRetry : state.selection.retry ≤ settings.retryTimes)
    (left : selection.retry < settings.retryTimes)
    (chosen : getChannel settings request (turns number).lookup state = .ok (selection, selected)) :
    ∃ error, relayRound settings request turns number state = .next selected
      { selection := selection.increaseRetry, current := selected, channelMeta := true
        newAPIError := some error } := by
  obtain ⟨error,failed,retryable⟩ := failing.fails number
  have turn := relayRound_of_error mayRetry chosen (failing.unhindered number) failed
  rw [if_pos (retryable (settings.retryTimes - selection.retry) (by omega))] at turn
  exact ⟨error,turn⟩

theorem SelectionState.resetNextTry_increaseRetry (state : SelectionState) :
    state.increaseRetry.resetNextTry = false := by
  unfold increaseRetry
  split
  next => rfl
  next unset => simpa using unset

variable (failing : FailingTurns settings request turns answer) {start : RelayLoopState Routed}

include failing

theorem FailingTurns.attempts (cross : request.crossGroupRetry = true)
    (someGroup : request.autoGroups ≠ []) (someRetries : 0 < settings.retryTimes)
    (again : state.channelMeta = true) (unset : state.selection.resetNextTry = false)
    (mayRetry : state.selection.retry ≤ settings.retryTimes)
    (enough : attemptsLeft settings request state < fuel) :
    (loop (relayRound settings request turns) fuel number state).1.map tag =
      attemptsAfter answer settings request state.selection := by
  induction fuel generalizing number state with
  | zero => omega
  | succ fuel ih =>
    rcases searched : searchGroups settings true (turns number).lookup state.selection.place
      (request.autoGroups.drop state.selection.place) state.selection.place state.selection with
      ⟨after,found⟩
    have attempts := searchGroups_attempts (failing.lookups number) (absurd · (lt_irrefl _))
      mayRetry unset rfl searched
    have chosen := searched
    unfold place at chosen
    rw [← cross] at chosen
    unfold attemptsAfter
    rw [attempts]
    cases found with
    | none =>
      have stops : relayRound settings request turns number state = .stop [] (some
          (getChannelError ("分组 auto 下模型 " ++ request.modelName ++
            " 的可用渠道不存在（retry）"))) := by
        unfold relayRound
        rw [if_neg (by omega)]
        simp only [getChannel,again,Bool.true_eq_false,if_false,cacheGetRandomSatisfiedChannel,
          someGroup,chosen]
      rw [loop_of_stop stops]
      rfl
    | some selected =>
      have left :=
        (searchGroups_found (absurd · (lt_irrefl _)) le_rfl searched).2.2.2 rfl someRetries
      have picked : getChannel settings request (turns number).lookup state =
          .ok (after, selected) := by
        simp only [getChannel,again,Bool.true_eq_false,if_false,cacheGetRandomSatisfiedChannel,
          someGroup,chosen]
      obtain ⟨error,goesOn⟩ := failing.next mayRetry left picked
      obtain ⟨-,falls⟩ := relayRound_ranked.next
        ⟨unset,fun first => by simp [again] at first⟩ goesOn
      have counter : after.increaseRetry.retry ≤ settings.retryTimes := by
        unfold increaseRetry
        split
        · exact left.le
        · exact left
      rw [loop_of_next goesOn,map_cons]
      congr 1
      exact ih rfl (resetNextTry_increaseRetry after) counter (by omega)

theorem FailingTurns.attempts_start (cross : request.crossGroupRetry = true)
    (someGroup : request.autoGroups ≠ []) (someRetries : 0 < settings.retryTimes)
    (unused : start.channelMeta = false) (fresh : FreshStart start)
    (enough : attemptsLeft settings request start < fuel) :
    (loop (relayRound settings request turns) fuel 0 start).1.map tag =
      start.current.tag ::
        attemptsAfter answer settings request { start.selection with retry := 1 } := by
  cases fuel with
  | zero => omega
  | succ =>
    have unspent : start.selection.retry = 0 := fresh.2 unused
    obtain ⟨error,goesOn⟩ := failing.next (by omega) (by omega) (getChannel_first unused)
    obtain ⟨-,falls⟩ := relayRound_ranked.next fresh goesOn
    have counted : start.selection.increaseRetry = { start.selection with retry := 1 } := by
      simp [increaseRetry,fresh.1,unspent]
    rw [loop_of_next goesOn,map_cons]
    congr 1
    rw [counted] at falls ⊢
    exact failing.attempts cross someGroup someRetries rfl fresh.1 someRetries (by omega)

theorem FailingTurns.attempts_once (never : settings.retryTimes = 0)
    (unused : start.channelMeta = false) (fresh : FreshStart start) (enough : 1 < fuel) :
    (loop (relayRound settings request turns) fuel 0 start).1.map tag =
      [start.current.tag] := by
  obtain ⟨left,rfl⟩ : ∃ left, fuel = left + 1 + 1 := ⟨fuel - 2,by omega⟩
  have unspent : start.selection.retry = 0 := fresh.2 unused
  obtain ⟨error,failed,-⟩ := failing.fails 0
  have turn : relayRound settings request turns 0 start = _ :=
    relayRound_of_error (by omega) (getChannel_first unused) (failing.unhindered 0) failed
  split at turn
  next =>
    have used : settings.retryTimes < start.selection.increaseRetry.retry := by
      simp [increaseRetry,fresh.1,never]
    have stops : relayRound settings request turns 1
        { selection := start.selection.increaseRetry, current := start.current
          channelMeta := true, newAPIError := some error } = .stop [] (some error) := by
      unfold relayRound
      rw [if_pos used]
    rw [loop_of_next turn,loop_of_stop stops]
    rfl
  next =>
    rw [loop_of_stop turn]
    rfl

end

/-! ### The documented order -/

theorem prioritiesTried_answered {answer : Nat → Option Int} {retry left : Nat} {priority : Int}
    (tried : priority ∈ prioritiesTried answer retry left) : ∃ number, answer number = some priority := by
  induction left generalizing retry with
  | zero => cases tried
  | succ left ih =>
    simp only [prioritiesTried] at tried
    split at tried
    next => cases tried
    next first answered =>
      rcases mem_cons.mp tried with rfl | later
      · exact ⟨retry,answered⟩
      · exact ih later

theorem length_prioritiesTried {answer : Nat → Option Int}
    (answered : ∀ number, ∃ priority, answer number = some priority) (retry left : Nat) :
    (prioritiesTried answer retry left).length = left := by
  induction left generalizing retry with
  | zero => rfl
  | succ left ih =>
    obtain ⟨priority,found⟩ := answered retry
    simp [prioritiesTried,found,ih]

theorem prioritiesTried_eq_drop {answer : Nat → Option Int} {listed : List Int} {retry left : Nat}
    (reads : ∀ number, retry ≤ number → number < listed.length → answer number = listed[number]?)
    (fits : retry + left = listed.length) :
    prioritiesTried answer retry left = listed.drop retry := by
  induction left generalizing retry with
  | zero => simp [prioritiesTried,← fits]
  | succ left ih =>
    have within : retry < listed.length := by omega
    have first := reads retry le_rfl within
    rw [getElem?_eq_getElem within] at first
    have later := ih (fun number after => reads number (by omega)) (by omega : retry + 1 + left = _)
    simp only [prioritiesTried,first,later]
    exact (drop_eq_getElem_cons within).symm

variable {groups : List String} {place : Nat}

theorem le_of_mem_groupByGroup {priorities : String → List Int} {attempt : Nat × Int}
    (member : attempt ∈ groupByGroup priorities groups place) :
    place ≤ attempt.1 := by
  induction groups generalizing place with
  | nil => cases member
  | cons group groups ih =>
    rcases mem_append.mp member with here | later
    · obtain ⟨priority,-,rfl⟩ := mem_map.mp here
      exact le_rfl
    · exact (Nat.le_succ place).trans (ih later)

/-- The places tell the attempts of a group from those of the groups after it. -/
theorem groupByGroup_inj {first second : String → List Int} :
    groupByGroup first groups place = groupByGroup second groups place ↔
      ∀ group ∈ groups, first group = second group := by
  induction groups generalizing place with
  | nil => simp [groupByGroup]
  | cons group groups ih =>
    have atPlace (priorities : String → List Int) :
        (groupByGroup priorities (group :: groups) place).filter (fun attempt =>
          attempt.1 = place) = (priorities group).map (Prod.mk place) := by
      rw [groupByGroup,filter_append,filter_eq_self.mpr,filter_eq_nil_iff.mpr,
        append_nil]
      · intro attempt member
        have later := le_of_mem_groupByGroup member
        simp only [decide_eq_true_eq]
        omega
      · simp
    rw [forall_mem_cons,← ih]
    constructor
    · intro equal
      have tagged : (first group).map (Prod.mk place) = (second group).map (Prod.mk place) := by
        rw [← atPlace first,equal,atPlace second]
      have same : first group = second group :=
        map_injective_iff.mpr (Prod.mk_right_injective place) tagged
      rw [groupByGroup,same] at equal
      exact ⟨same,append_cancel_left equal⟩
    · rintro ⟨same,rest⟩
      rw [groupByGroup,groupByGroup,same,rest]

theorem length_le_groupByGroup {priorities : String → List Int}
    (stocked : ∀ group ∈ groups, priorities group ≠ []) :
    groups.length ≤ (groupByGroup priorities groups place).length := by
  induction groups generalizing place with
  | nil => exact Nat.zero_le _
  | cons group groups ih =>
    have some : 0 < (priorities group).length :=
      length_pos_iff.mpr (stocked group mem_cons_self)
    have rest : groups.length ≤ (groupByGroup priorities groups (place + 1)).length :=
      ih (forall_mem_cons.mp stocked).2
    simp only [groupByGroup,length_append,length_map,length_cons]
    omega

/-! ### A request whose attempts all fail -/

structure FailingRequest where
  directory : ChannelDirectory
  requestPath : String
  pathCheck : Int → Option Bool
  draws : (turn place : Nat) → RandomDraw
  preferred : Routed
  errors : Nat → RelayError

namespace FailingRequest

variable (failing : FailingRequest) (request : AutoRequest)

def route : RouteRequest where
  modelName := request.modelName
  requestPath := failing.requestPath
  pathCheck := failing.pathCheck

def environment : RelayEnvironment Routed where
  distributed place group retry :=
    lookupChannel failing.directory (failing.route request) (failing.draws 0 place) group retry
  preferred := failing.preferred
  turns number :=
    { lookup := fun place group retry => lookupChannel failing.directory (failing.route request)
        (failing.draws (number + 1) place) group retry
      obstacle := none
      answer := some (failing.errors number) }

def priorities (group : String) : List Int :=
  failing.directory.enabledPriorities (failing.route request) group

def served (group : String) : List Int :=
  failing.directory.servedPriorities (failing.route request) group

def documentedOrder : List (Nat × Int) :=
  groupByGroup (failing.priorities request) request.autoGroups 0

/-- An affinity leads to a channel that a lookup in its group may find as well. -/
def Offers : FirstChoice → Prop
  | .selection => True
  | .affinity place => ∃ group, request.autoGroups[place]? = some group ∧
      failing.preferred.priority ∈ failing.served request group

/-- Every attempt fails with an error after which the request may be retried across its groups,
each of which has enabled channels. -/
structure FallsBack (settings : RetrySettings) (first : FirstChoice) : Prop where
  cross : request.crossGroupRetry = true
  someGroup : request.autoGroups ≠ []
  stocked : ∀ group ∈ request.autoGroups, failing.priorities request group ≠ []
  retryable : ∀ number (left : Int), 0 < left →
    shouldRetry settings request (failing.errors number) left = true
  offers : failing.Offers request first

def StartsOnTop : FirstChoice → Prop
  | .selection => True
  | .affinity place => place = 0 ∧ ∃ group, request.autoGroups.head? = some group ∧
      (failing.priorities request group).head? = some failing.preferred.priority

/-- When the attempts keep to the documented order: every group has as many priorities as it gets
tries, each of them with a channel that serves the request. -/
structure TriesMatch (settings : RetrySettings) (first : FirstChoice) : Prop where
  groupwise : ∀ group ∈ request.autoGroups,
    (∀ priority ∈ failing.priorities request group, priority ∈ failing.served request group) ∧
      (failing.priorities request group).length = settings.retryTimes + 1
  goesOn : 0 < settings.retryTimes ∨ request.autoGroups.length = 1
  onTop : failing.StartsOnTop request first

def answer : String → Nat → Option Int :=
  failing.directory.priorityAt (failing.route request)

end FailingRequest

variable (settings : RetrySettings)

/-- The attempts that `Relay` makes, each as the place of its group and its priority. -/
def relayAttempts (request : AutoRequest) (first : FirstChoice)
    (environment : RelayEnvironment Routed) (fuel : Nat) : List (Nat × Int) :=
  match distribute settings request first environment with
  | none => []
  | some start => (relayLoop settings request environment fuel start).1.map tag

/-- How many of the attempts a loop makes that starts with the first of them: all of them if it
retries, and only that one if it does not. -/
def attemptsMade (attempts : List (Nat × Int)) : List (Nat × Int) :=
  if 0 < settings.retryTimes then attempts else attempts.take 1

namespace FailingRequest

variable {settings : RetrySettings} {request : AutoRequest} {failing : FailingRequest}
  {first : FirstChoice} {fuel : Nat}

/-- In a group the tries go once through the priorities just when they are as many. -/
theorem prioritiesTried_eq {group : String} (stocked : failing.priorities request group ≠ [])
    (retryTimes : Nat) :
    prioritiesTried (failing.answer request group) 0 (retryTimes + 1) =
        failing.priorities request group ↔
      (∀ priority ∈ failing.priorities request group, priority ∈ failing.served request group) ∧
        (failing.priorities request group).length = retryTimes + 1 := by
  constructor
  · intro once
    have served : ∀ priority ∈ failing.priorities request group,
        priority ∈ failing.served request group := by
      intro priority member
      rw [← once] at member
      obtain ⟨number,answered⟩ := prioritiesTried_answered member
      exact priorityAt_mem answered
    have answered : ∀ number, ∃ priority, failing.answer request group number = some priority := by
      intro number
      cases found : failing.answer request group number with
      | some priority => exact ⟨priority,rfl⟩
      | none =>
        rw [answer,priorityAt_of_served served] at found
        exact absurd (clampedPriority_eq_none.mp found) stocked
    refine ⟨served,?_⟩
    rw [← once,length_prioritiesTried answered]
  · rintro ⟨served,asMany⟩
    have reads : ∀ number, 0 ≤ number → number < (failing.priorities request group).length →
        failing.answer request group number = (failing.priorities request group)[number]? := by
      intro number _ within
      rw [answer,priorityAt_of_served served]
      exact if_neg (not_le.mpr within)
    rw [prioritiesTried_eq_drop reads (by omega),drop_zero]

theorem FallsBack.documented_iff (falls : failing.FallsBack request settings first) :
    fallbackAttempts (failing.answer request) settings.retryTimes request.autoGroups 0 0 =
        failing.documentedOrder request ↔
      ∀ group ∈ request.autoGroups,
        (∀ priority ∈ failing.priorities request group, priority ∈ failing.served request group) ∧
          (failing.priorities request group).length = settings.retryTimes + 1 := by
  rw [fallbackAttempts_zero,documentedOrder,groupByGroup_inj]
  exact forall₂_congr fun group member => prioritiesTried_eq (falls.stocked group member) _

section

variable (enough : request.autoGroups.length * (settings.retryTimes + 1) < fuel)

include enough

theorem FallsBack.relayLoop_attempts (falls : failing.FallsBack request settings first)
    {start : RelayLoopState Routed} (within : first.Within request)
    (distributed : distribute settings request first (failing.environment request) = some start) :
    (relayLoop settings request (failing.environment request) fuel start).1.map tag =
      attemptsMade settings (start.current.tag :: attemptsAfter (failing.answer request) settings
        request { start.selection with retry := 1 }) := by
  have turns : FailingTurns settings request (failing.environment request).turns
      (failing.answer request) :=
    { lookups := fun _ _ group retry => lookupChannel_priority _ _ _ group retry
      unhindered := fun _ => rfl
      fails := fun number => ⟨failing.errors number,rfl,falls.retryable number⟩ }
  have begins := distribute_start within distributed
  have oneRound : 1 * (settings.retryTimes + 1) ≤
      request.autoGroups.length * (settings.retryTimes + 1) :=
    Nat.mul_le_mul_right _ begins.someGroup
  unfold relayLoop attemptsMade
  split
  next someRetries =>
    have ranked : attemptsLeft settings request start ≤ _ := attemptsLeft_start_le begins
    exact turns.attempts_start falls.cross falls.someGroup someRetries begins.unused
      begins.fresh (by omega)
  next never => exact turns.attempts_once (by omega) begins.unused begins.fresh (by omega)

theorem FallsBack.relayAttempts_selection (falls : failing.FallsBack request settings .selection) :
    relayAttempts settings request .selection (failing.environment request) fuel =
      attemptsMade settings
        (fallbackAttempts (failing.answer request) settings.retryTimes request.autoGroups 0 0) := by
  rcases searched : searchGroups settings true (failing.environment request).distributed 0
    request.autoGroups 0 { autoGroupIndex := none, retry := 0, resetNextTry := false } with
    ⟨after,found⟩
  have answers : AnswersWith (failing.environment request).distributed (failing.answer request) :=
    fun _ group retry => lookupChannel_priority _ _ _ group retry
  have attempts : fallbackAttempts (failing.answer request) settings.retryTimes
      request.autoGroups 0 0 = _ :=
    searchGroups_attempts answers (absurd · (lt_irrefl _)) (Nat.zero_le _) rfl drop_zero searched
  have distributed : distribute settings request .selection (failing.environment request) =
      found.map fun selected =>
        { selection := { after with retry := 0, resetNextTry := false }
          current := selected, channelMeta := false, newAPIError := none } := by
    simp only [distribute,cacheGetRandomSatisfiedChannel,falls.someGroup,
      Option.getD_none,drop_zero,falls.cross,searched]
    cases found <;> rfl
  rw [attempts]
  cases found with
  | none =>
    simp [relayAttempts,distributed,attemptsMade]
  | some selected =>
    rw [Option.map_some] at distributed
    simp only [relayAttempts,distributed]
    rw [falls.relayLoop_attempts enough trivial distributed]
    unfold attemptsMade
    split
    next someRetries =>
      obtain ⟨-,-,leaves,-⟩ := searchGroups_found (absurd · (lt_irrefl _)) le_rfl searched
      have stays : after =
          { autoGroupIndex := some selected.group, retry := 0, resetNextTry := false } := by
        rcases leaves with stays | ⟨-,exhausted,-⟩
        · simpa using stays
        · simp only [ite_self] at exhausted
          omega
      rw [stays]
      rfl
    next => rfl

theorem FallsBack.relayAttempts_affinity
    (falls : failing.FallsBack request settings (.affinity place)) :
    relayAttempts settings request (.affinity place) (failing.environment request) fuel =
      attemptsMade settings ((place, failing.preferred.priority) ::
        fallbackAttempts (failing.answer request) settings.retryTimes request.autoGroups 0 1) := by
  have within : (FirstChoice.affinity place).Within request := by
    obtain ⟨group,isGroup,-⟩ := falls.offers
    exact (List.getElem?_eq_some_iff.mp isGroup).1
  exact falls.relayLoop_attempts enough within rfl

theorem FallsBack.relayAttempts_onTop (falls : failing.FallsBack request settings first)
    (onTop : failing.StartsOnTop request first) :
    relayAttempts settings request first (failing.environment request) fuel =
      attemptsMade settings
        (fallbackAttempts (failing.answer request) settings.retryTimes request.autoGroups 0 0) := by
  cases first with
  | selection => exact falls.relayAttempts_selection enough
  | affinity =>
    obtain ⟨rfl,group,isHead,highest⟩ := onTop
    obtain ⟨groups,listed⟩ : ∃ groups, request.autoGroups = group :: groups :=
      head?_eq_some_iff.mp isHead
    obtain ⟨lower,sorted⟩ : ∃ lower, failing.priorities request group =
        failing.preferred.priority :: lower := head?_eq_some_iff.mp highest
    obtain ⟨offeredGroup,isFirst,served⟩ := falls.offers
    have sameGroup : offeredGroup = group := by simpa [listed] using isFirst.symm
    have answered : failing.answer request group 0 = some failing.preferred.priority :=
      priorityAt_zero sorted (sameGroup ▸ served)
    rw [falls.relayAttempts_affinity enough,listed,
      fallbackAttempts_some (Nat.zero_le _) answered]

theorem FallsBack.startsOnTop (falls : failing.FallsBack request settings first)
    (follows : relayAttempts settings request first (failing.environment request) fuel =
      failing.documentedOrder request) : failing.StartsOnTop request first := by
  cases first with
  | selection => trivial
  | affinity place =>
    obtain ⟨group,groups,listed⟩ := exists_cons_of_ne_nil falls.someGroup
    obtain ⟨highest,lower,sorted⟩ := exists_cons_of_ne_nil
      (falls.stocked group (by simp [listed]))
    have head : (failing.documentedOrder request).head? = some (0, highest) := by
      simp [documentedOrder,listed,groupByGroup,sorted]
    rw [← follows,falls.relayAttempts_affinity enough] at head
    have same : (place, failing.preferred.priority) = (0, highest) := by
      unfold attemptsMade at head
      split at head <;> exact Option.some.inj head
    obtain ⟨rfl,rfl⟩ := Prod.mk.inj same
    exact ⟨rfl,group,by simp [listed],by simp [sorted]⟩

end

theorem attemptsMade_eq {answer : String → Nat → Option Int}
    (goesOn : 0 < settings.retryTimes ∨ groups.length = 1) :
    attemptsMade settings (fallbackAttempts answer settings.retryTimes groups 0 0) =
      fallbackAttempts answer settings.retryTimes groups 0 0 := by
  unfold attemptsMade
  split
  next => rfl
  next never =>
    obtain ⟨group,rfl⟩ := length_eq_one_iff.mp (goesOn.resolve_left never)
    have noRetry : settings.retryTimes = 0 := by omega
    cases found : answer group 0 <;>
      simp [fallbackAttempts,groupByGroup,prioritiesTried,noRetry,found]

end FailingRequest

/-- A request whose attempts all fail keeps to the documented order (every priority of every group
once, the highest first) exactly when each group has one priority more than there are retries, all
of them with a channel that serves the request, and it starts on top. -/
theorem fallback_order_iff (request : AutoRequest) (first : FirstChoice)
    (failing : FailingRequest) (fuel : Nat) (falls : failing.FallsBack request settings first)
    (enough : request.autoGroups.length * (settings.retryTimes + 1) < fuel) :
    relayAttempts settings request first (failing.environment request) fuel =
        failing.documentedOrder request ↔
      failing.TriesMatch request settings first := by
  constructor
  · intro follows
    have onTop := falls.startsOnTop enough follows
    rw [falls.relayAttempts_onTop enough onTop] at follows
    have goesOn : 0 < settings.retryTimes ∨ request.autoGroups.length = 1 := by
      by_contra neither
      rw [not_or] at neither
      have several : 0 < request.autoGroups.length := length_pos_iff.mpr falls.someGroup
      have long : _ ≤ (failing.documentedOrder request).length :=
        length_le_groupByGroup falls.stocked
      rw [← follows,attemptsMade,if_neg neither.1] at long
      have short := length_take_le 1
        (fallbackAttempts (failing.answer request) settings.retryTimes request.autoGroups 0 0)
      omega
    rw [FailingRequest.attemptsMade_eq goesOn] at follows
    exact ⟨falls.documented_iff.mp follows,goesOn,onTop⟩
  · intro fits
    rw [falls.relayAttempts_onTop enough fits.onTop,FailingRequest.attemptsMade_eq fits.goesOn]
    exact falls.documented_iff.mpr fits.groupwise

def twoPriorities (memoryCacheEnabled : Bool) : ChannelDirectory where
  memoryCacheEnabled := memoryCacheEnabled
  index :=
    { group2model2channels := fun group =>
        if group = "vip" ∨ group = "default" then
          some fun model => if model = "gpt-4o" then [1, 2] else []
        else none
      channelsIDM := fun id =>
        some { id, status := 1, group := "vip,default", models := "gpt-4o"
               priority := some (if id = 1 then 10 else 5), weight := some 1, tag := none }
      known := fun _ _ _ _ => rfl }
  abilities :=
    [{ group := "vip", model := "gpt-4o", channelId := 1, enabled := true, priority := some 10
       weight := 1, tag := none },
     { group := "vip", model := "gpt-4o", channelId := 2, enabled := true, priority := some 5
       weight := 1, tag := none },
     { group := "default", model := "gpt-4o", channelId := 1, enabled := true, priority := some 10
       weight := 1, tag := none },
     { group := "default", model := "gpt-4o", channelId := 2, enabled := true, priority := some 5
       weight := 1, tag := none }]

def unlucky (memoryCacheEnabled : Bool) : FailingRequest where
  directory := twoPriorities memoryCacheEnabled
  requestPath := "/v1/chat/completions"
  pathCheck _ := none
  draws _ _ := { intn := fun _ => 0, below := fun _ positive => positive }
  preferred := { channelId := 1, priority := 10 }
  errors _ :=
    { err := "upstream error", errorCode := "bad_response_status_code", statusCode := 502
      skipRetry := false }

theorem two_priorities_two_tries :
    relayAttempts oneRetry (twoGroupRequest true) .selection
        ((unlucky true).environment (twoGroupRequest true)) 5 =
      (unlucky true).documentedOrder (twoGroupRequest true) ∧
    (unlucky true).FallsBack (twoGroupRequest true) oneRetry .selection := by
  have falls : (unlucky true).FallsBack (twoGroupRequest true) oneRetry .selection :=
    { cross := rfl
      someGroup := by decide
      stocked := by decide +kernel
      retryable := fun number left positive => by
        simp [shouldRetry,twoGroupRequest,unlucky,oneRetry,positive]
      offers := trivial }
  exact ⟨(fallback_order_iff oneRetry (twoGroupRequest true) .selection (unlucky true) 5 falls
    (by decide)).mpr ⟨by decide +kernel,Or.inl (by decide),trivial⟩,falls⟩

/-- The example of the source: two groups with two priorities each and three retries. Every group
gets four tries, and those beyond its second priority repeat that one. -/
theorem lowest_priority_repeated :
    [true, false].map (fun memoryCacheEnabled =>
        (relayAttempts { oneRetry with retryTimes := 3 } (twoGroupRequest true) .selection
            ((unlucky memoryCacheEnabled).environment (twoGroupRequest true)) 9,
          (unlucky memoryCacheEnabled).documentedOrder (twoGroupRequest true))) =
      List.replicate 2 ([(0, 10), (0, 5), (0, 5), (0, 5), (1, 10), (1, 5), (1, 5), (1, 5)],
        [(0, 10), (0, 5), (1, 10), (1, 5)]) := by
  decide +kernel

end NewApi
