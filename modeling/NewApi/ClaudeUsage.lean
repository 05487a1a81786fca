import NewApi.TextQuota

/-!
# Token counts between the OpenAI and the Claude format

OpenAI counts cache reads and cache writes inside the prompt, Claude beside it. The two converters
are inverse to each other only for a usage that reports its cache writes the native way, split in
full.
-/

namespace NewApi

/-- `dto.ClaudeUsage` with the counts the converters read; `cacheCreation` is the split of the
cache writes into those kept for five minutes and for an hour. -/
structure ClaudeUsage where
  inputTokens : Int
  outputTokens : Int
  cacheCreationInputTokens : Int
  cacheReadInputTokens : Int
  cacheCreation : Option (Int × Int)
deriving DecidableEq, Repr

def ClaudeUsage.getCacheCreation5mTokens (usage : ClaudeUsage) : Int :=
  (usage.cacheCreation.map Prod.fst).getD 0

def ClaudeUsage.getCacheCreation1hTokens (usage : ClaudeUsage) : Int :=
  (usage.cacheCreation.map Prod.snd).getD 0

def normalizeCacheCreationSplit (totalTokens tokens5m tokens1h : Int) : Int × Int :=
  (tokens5m + max (totalTokens - tokens5m - tokens1h) 0, tokens1h)

/-- `claudeBilling` is the Claude usage of a billing usage of Claude's own, which is handed back as
it is. -/
def buildClaudeUsageFromOpenAIUsage (claudeBilling : Option ClaudeUsage) (usage : TextUsage) :
    ClaudeUsage :=
  match claudeBilling with
  | some billed => billed
  | none =>
    let details := usage.promptTokensDetails
    -- the remainder is taken from the legacy count alone, not from the total below
    let split := normalizeCacheCreationSplit details.cachedCreationTokens
      usage.claudeCacheCreation5mTokens usage.claudeCacheCreation1hTokens
    let cacheCreationTokens := details.cacheCreationTokensTotal
    { inputTokens :=
        if 0 < details.cacheWriteTokens then
          max (usage.promptTokens - details.cachedTokens - cacheCreationTokens) 0
        else usage.promptTokens
      outputTokens := usage.completionTokens
      cacheCreationInputTokens := cacheCreationTokens
      cacheReadInputTokens := details.cachedTokens
      cacheCreation := if 0 < split.1 ∨ 0 < split.2 then some split else none }

variable (usage : TextUsage)

def cacheCreationTokensForOpenAIUsage : Int :=
  let split := usage.claudeCacheCreation5mTokens + usage.claudeCacheCreation1hTokens
  if split = 0 then usage.promptTokensDetails.cachedCreationTokens
  else max usage.promptTokensDetails.cachedCreationTokens split

def buildOpenAIStyleUsageFromClaudeUsage : TextUsage :=
  let details := usage.promptTokensDetails
  let split := normalizeCacheCreationSplit details.cachedCreationTokens
    usage.claudeCacheCreation5mTokens usage.claudeCacheCreation1hTokens
  let cacheCreationTokens := cacheCreationTokensForOpenAIUsage usage
  { usage with
    promptTokens := usage.promptTokens + details.cachedTokens + cacheCreationTokens
    usageSemantic := "openai"
    usageSource := "anthropic"
    promptTokensDetails := { details with cacheWriteTokens := cacheCreationTokens }
    claudeCacheCreation5mTokens := split.1
    claudeCacheCreation1hTokens := split.2 }

def usageFromClaudeAPIUsage (usage : ClaudeUsage) : TextUsage :=
  buildOpenAIStyleUsageFromClaudeUsage
    { promptTokens := usage.inputTokens
      completionTokens := usage.outputTokens
      usageSemantic := "anthropic"
      usageSource := "anthropic"
      promptTokensDetails := ⟨usage.cacheReadInputTokens, usage.cacheCreationInputTokens, 0, 0, 0⟩
      completionImageTokens := 0
      completionAudioTokens := 0
      claudeCacheCreation5mTokens := usage.getCacheCreation5mTokens
      claudeCacheCreation1hTokens := usage.getCacheCreation1hTokens
      cost := 0
      costIsIntZero := false }

/-- The Claude counts add up to the prompt, their split to the cache writes, and the way back gives
the counts of `usage`. -/
structure AccountsFor (usage : TextUsage) (claude : ClaudeUsage) : Prop where
  prompt : claude.inputTokens + claude.cacheReadInputTokens + claude.cacheCreationInputTokens =
    usage.promptTokens
  split : claude.getCacheCreation5mTokens + claude.getCacheCreation1hTokens =
    claude.cacheCreationInputTokens
  promptBack : (usageFromClaudeAPIUsage claude).promptTokens = usage.promptTokens
  completionBack : (usageFromClaudeAPIUsage claude).completionTokens = usage.completionTokens
  cachedBack : (usageFromClaudeAPIUsage claude).promptTokensDetails.cachedTokens =
    usage.promptTokensDetails.cachedTokens
  creationBack : (usageFromClaudeAPIUsage claude).promptTokensDetails.cacheCreationTokensTotal =
    usage.promptTokensDetails.cacheCreationTokensTotal

/-- A usage with cache reads or writes reports the writes natively, and the split is not less than
the total. -/
structure NativeCacheCounts (usage : TextUsage) : Prop where
  native : 0 < usage.promptTokensDetails.cacheWriteTokens ∨
    usage.promptTokensDetails.cachedTokens = 0 ∧ usage.promptTokensDetails.cachedCreationTokens = 0
  split : max usage.promptTokensDetails.cachedCreationTokens
      (usage.claudeCacheCreation5mTokens + usage.claudeCacheCreation1hTokens) =
    max usage.promptTokensDetails.cachedCreationTokens usage.promptTokensDetails.cacheWriteTokens

theorem cacheCreationTokensTotal_eq {details : InputTokenDetails}
    (legacy : 0 ≤ details.cachedCreationTokens) :
    details.cacheCreationTokensTotal =
      max details.cachedCreationTokens details.cacheWriteTokens := by
  simp only [InputTokenDetails.cacheCreationTokensTotal]
  split_ifs <;> omega

theorem split_buildClaudeUsage {usage : TextUsage}
    (legacy : 0 ≤ usage.promptTokensDetails.cachedCreationTokens) :
    let claude := buildClaudeUsageFromOpenAIUsage none usage
    claude.getCacheCreation5mTokens + claude.getCacheCreation1hTokens =
      max usage.promptTokensDetails.cachedCreationTokens
        (usage.claudeCacheCreation5mTokens + usage.claudeCacheCreation1hTokens) := by
  simp only [ClaudeUsage.getCacheCreation5mTokens,ClaudeUsage.getCacheCreation1hTokens,
    buildClaudeUsageFromOpenAIUsage]
  split
  · simp only [normalizeCacheCreationSplit,Option.map_some,Option.getD_some]
    omega
  next absent =>
    simp only [normalizeCacheCreationSplit] at absent
    simp only [Option.map_none,Option.getD_none]
    omega

theorem claude_usage_accounts_iff (nonneg : usage.Nonneg)
    (legacy : 0 ≤ usage.promptTokensDetails.cachedCreationTokens)
    (written : 0 ≤ usage.promptTokensDetails.cacheWriteTokens)
    (within : usage.promptTokensDetails.cachedTokens +
      usage.promptTokensDetails.cacheCreationTokensTotal ≤ usage.promptTokens) :
    AccountsFor usage (buildClaudeUsageFromOpenAIUsage none usage) ↔ NativeCacheCounts usage := by
  have splitSum := split_buildClaudeUsage legacy
  have total := cacheCreationTokensTotal_eq legacy
  have cached := nonneg.cached
  constructor
  · intro accounts
    have prompt := accounts.prompt
    refine ⟨?_,splitSum.symm.trans (accounts.split.trans total)⟩
    simp only [buildClaudeUsageFromOpenAIUsage] at prompt
    split_ifs at prompt <;> omega
  · rintro ⟨native,full⟩
    have split : _ = (buildClaudeUsageFromOpenAIUsage none usage).cacheCreationInputTokens :=
      splitSum.trans (full.trans total.symm)
    refine ⟨?_,split,?_,rfl,rfl,?_⟩
    case refine_3 =>
      simp only [usageFromClaudeAPIUsage,buildOpenAIStyleUsageFromClaudeUsage,
        cacheCreationTokensForOpenAIUsage,split,max_self,ite_self]
      rw [cacheCreationTokensTotal_eq (total.trans_ge (le_max_of_le_left legacy)),max_self]
      rfl
    case refine_2 =>
      simp only [usageFromClaudeAPIUsage,buildOpenAIStyleUsageFromClaudeUsage,
        cacheCreationTokensForOpenAIUsage,split]
      simp only [buildClaudeUsageFromOpenAIUsage]
      split_ifs <;> omega
    case refine_1 =>
      simp only [buildClaudeUsageFromOpenAIUsage]
      split_ifs <;> omega

def cachedPrompt (cacheWriteTokens : Int) : TextUsage :=
  { promptTokens := 100, completionTokens := 5, usageSemantic := "", usageSource := ""
    promptTokensDetails := ⟨60, 0, cacheWriteTokens, 0, 0⟩
    completionImageTokens := 0, completionAudioTokens := 0
    claudeCacheCreation5mTokens := cacheWriteTokens, claudeCacheCreation1hTokens := 0
    cost := 0, costIsIntZero := false }

theorem cached_prompt_counted_twice :
    ¬ AccountsFor (cachedPrompt 0) (buildClaudeUsageFromOpenAIUsage none (cachedPrompt 0)) :=
  fun accounts => absurd accounts.prompt (by decide)

theorem claude_usage_accounts_written :
    AccountsFor (cachedPrompt 30) (buildClaudeUsageFromOpenAIUsage none (cachedPrompt 30)) :=
  (claude_usage_accounts_iff (cachedPrompt 30) (by constructor <;> decide) (by decide) (by decide)
    (by decide)).mpr ⟨by decide,by decide⟩

end NewApi
