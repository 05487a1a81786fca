import NewApi.TaskPricing

/-!
# Counting the tokens of a text request

OpenAI reports the prompt with cache, images and audio inside, Claude without the cache; a usage
that came from Claude may look like either. Token counts are integers here; below 2^53 the floats
of the tiered path hold them exactly.
-/

namespace NewApi

structure InputTokenDetails where
  cachedTokens : Int
  cachedCreationTokens : Int
  cacheWriteTokens : Int
  audioTokens : Int
  imageTokens : Int
deriving DecidableEq, Repr

def InputTokenDetails.cacheCreationTokensTotal (details : InputTokenDetails) : Int :=
  let total :=
    if details.cachedCreationTokens < details.cacheWriteTokens then details.cacheWriteTokens
    else details.cachedCreationTokens
  if total < 0 then 0 else total

/-- The fields of `dto.Usage` that billing reads. `cost` is the number in the field of that name, 0
when there is none, and `costIsIntZero` says that the field holds the integer 0. -/
structure TextUsage where
  promptTokens : Int
  completionTokens : Int
  usageSemantic : String
  usageSource : String
  promptTokensDetails : InputTokenDetails
  completionImageTokens : Int
  completionAudioTokens : Int
  claudeCacheCreation5mTokens : Int
  claudeCacheCreation1hTokens : Int
  cost : Rat
  costIsIntZero : Bool
deriving DecidableEq, Repr

/-- No count is negative. -/
structure TextUsage.Nonneg (usage : TextUsage) : Prop where
  prompt : 0 ≤ usage.promptTokens
  completion : 0 ≤ usage.completionTokens
  cached : 0 ≤ usage.promptTokensDetails.cachedTokens
  audio : 0 ≤ usage.promptTokensDetails.audioTokens
  image : 0 ≤ usage.promptTokensDetails.imageTokens
  write5m : 0 ≤ usage.claudeCacheCreation5mTokens
  write1h : 0 ≤ usage.claudeCacheCreation1hTokens

/-- What the two paths read of the request: its final format, its channel, and the prices. -/
structure TextRelay where
  finalFormatClaude : Bool
  openRouter : Bool
  usePrice : Bool
  customModelRatio : Bool
  modelPrice : Rat
  modelRatio : Rat
  groupRatio : Rat
  completionRatio : Rat
  cacheRatio : Rat
  imageRatio : Rat
  cacheCreationRatio : Rat
  cacheCreation5mRatio : Rat
  cacheCreation1hRatio : Rat
  otherRatios : OtherRatios
  quotaPerUnit : Rat
  /-- `GetGeminiInputAudioPricePerMillionTokens` for the model. -/
  audioInputPrice : Rat
  toolCallSurchargeQuota : Rat

def usageSemanticFromUsage (relay : TextRelay) (usage : TextUsage) : String :=
  if usage.usageSemantic ≠ "" then usage.usageSemantic
  else if relay.finalFormatClaude then "anthropic"
  else "openai"

def isClaudeUsageSemantic (relay : TextRelay) (usage : TextUsage) : Bool :=
  usageSemanticFromUsage relay usage = "anthropic"

def isLegacyClaudeDerivedOpenAIUsage (relay : TextRelay) (usage : TextUsage) : Bool :=
  if relay.finalFormatClaude then false
  else if usage.usageSource ≠ "" ∨ usage.usageSemantic ≠ "" then false
  else 0 < usage.claudeCacheCreation5mTokens ∨ 0 < usage.claudeCacheCreation1hTokens

def isOpenRouterClaudeBilling (relay : TextRelay) (usage : TextUsage) : Bool :=
  relay.openRouter && isClaudeUsageSemantic relay usage

/-- The variables of a billing expression besides `p`, `c` and `len`. -/
inductive TieredVar where
  | cr | cc | cc1h | img | ai | imgO | ao
deriving DecidableEq, Repr

structure TokenParams where
  p : Int
  c : Int
  len : Int
  cr : Int
  cc : Int
  cc1h : Int
  img : Int
  imgO : Int
  ai : Int
  ao : Int
deriving DecidableEq, Repr

def buildTieredTokenParams (usage : TextUsage) (isClaude : Bool) (usedVars : TieredVar → Bool) :
    TokenParams :=
  let p := usage.promptTokens
  let c := usage.completionTokens
  let cr := usage.promptTokensDetails.cachedTokens
  let anthropic := decide (usage.usageSemantic = "anthropic")
  let cc5m :=
    if anthropic then usage.claudeCacheCreation5mTokens
    else usage.promptTokensDetails.cacheCreationTokensTotal
  let cc1h := if anthropic then usage.claudeCacheCreation1hTokens else 0
  let img := usage.promptTokensDetails.imageTokens
  let ai := usage.promptTokensDetails.audioTokens
  let imgO := usage.completionImageTokens
  let ao := usage.completionAudioTokens
  let less (variable_ : TieredVar) (tokens : Int) : Int := if usedVars variable_ then tokens else 0
  let text :=
    if isClaude then p
    else p - less .cr cr - less .cc cc5m - less .cc1h cc1h - less .img img - less .ai ai
  let completionText := if isClaude then c else c - less .imgO imgO - less .ao ao
  { p := if text < 0 then 0 else text
    c := if completionText < 0 then 0 else completionText
    len := if isClaude then p + cr + cc5m + cc1h else p
    cr := cr
    cc := cc5m
    cc1h := cc1h
    img := img
    imgO := imgO
    ai := ai
    ao := ao }

/-- `CalcOpenRouterCacheCreateTokens`. A quotient by zero counts as 0 here; its infinities and its
NaN do not pass the check of the caller either. -/
def calcOpenRouterCacheCreateTokens (relay : TextRelay) (usage : TextUsage) : Int :=
  if relay.cacheCreationRatio = 1 then 0
  else
    let quotaPrice := relay.modelRatio / relay.quotaPerUnit
    let promptCacheCreatePrice := quotaPrice * relay.cacheCreationRatio
    let promptCacheReadPrice := quotaPrice * relay.cacheRatio
    let completionPrice := quotaPrice * relay.completionRatio
    roundHalfAway ((usage.cost - usage.promptTokens * quotaPrice +
      usage.promptTokensDetails.cachedTokens * (quotaPrice - promptCacheReadPrice) -
      usage.completionTokens * completionPrice) / (promptCacheCreatePrice - quotaPrice))

structure TokenSummary where
  promptTokens : Int
  completionTokens : Int
  totalTokens : Int
  cacheTokens : Int
  cacheCreationTokens : Int
  cacheCreationTokens5m : Int
  cacheCreationTokens1h : Int
  imageTokens : Int
  audioTokens : Int
  isClaudeUsageSemantic : Bool
deriving DecidableEq, Repr

/-- The cache writes of an OpenRouter request that reports none, from its cost. -/
def openRouterCacheCreation (relay : TextRelay) (usage : TextUsage) : Int :=
  let reported := usage.promptTokensDetails.cacheCreationTokensTotal
  let rest := usage.promptTokens - usage.promptTokensDetails.cachedTokens
  let isUsingCustomSettings := relay.usePrice || relay.customModelRatio
  if reported = 0 ∧ relay.cacheCreationRatio ≠ 1 ∧ usage.costIsIntZero = false ∧
      isUsingCustomSettings = false then
    let maybeCacheCreationTokens := calcOpenRouterCacheCreateTokens relay usage
    if 0 ≤ maybeCacheCreationTokens ∧ maybeCacheCreationTokens ≤ rest then maybeCacheCreationTokens
    else reported
  else reported

/-- The first half of `calculateTextQuotaSummary`: the counts, with the prompt of an OpenRouter
request for Claude taken apart. -/
def tokenSummary (relay : TextRelay) (usage : TextUsage) : TokenSummary :=
  let details := usage.promptTokensDetails
  let openRouter := isOpenRouterClaudeBilling relay usage
  let cacheCreationTokens :=
    if openRouter then openRouterCacheCreation relay usage else details.cacheCreationTokensTotal
  { promptTokens :=
      if openRouter then usage.promptTokens - details.cachedTokens - cacheCreationTokens
      else usage.promptTokens
    completionTokens := usage.completionTokens
    totalTokens := usage.promptTokens + usage.completionTokens
    cacheTokens := details.cachedTokens
    cacheCreationTokens := cacheCreationTokens
    cacheCreationTokens5m := usage.claudeCacheCreation5mTokens
    cacheCreationTokens1h := usage.claudeCacheCreation1hTokens
    imageTokens := details.imageTokens
    audioTokens := details.audioTokens
    isClaudeUsageSemantic := isClaudeUsageSemantic relay usage }

structure CacheWrites where
  plain : Int
  fiveMinutes : Int
  oneHour : Int
deriving DecidableEq, Repr

def CacheWrites.total (writes : CacheWrites) : Int :=
  writes.plain + writes.fiveMinutes + writes.oneHour

namespace TokenSummary

variable (summary : TokenSummary) (legacyClaudeDerived : Bool)

def cacheInside : Bool :=
  !summary.isClaudeUsageSemantic && !legacyClaudeDerived

def cacheWrites : CacheWrites :=
  let hasSplit := 0 < summary.cacheCreationTokens5m ∨ 0 < summary.cacheCreationTokens1h
  if summary.cacheCreationTokens ≠ 0 ∨ hasSplit then
    if summary.cacheInside legacyClaudeDerived then ⟨summary.cacheCreationTokens, 0, 0⟩
    else
      let remaining := summary.cacheCreationTokens - summary.cacheCreationTokens5m -
        summary.cacheCreationTokens1h
      ⟨if remaining < 0 then 0 else remaining, summary.cacheCreationTokens5m,
        summary.cacheCreationTokens1h⟩
  else ⟨0, 0, 0⟩

def pricedAudio (audioInputPrice : Rat) : Int :=
  if summary.audioTokens ≠ 0 ∧ 0 < audioInputPrice then summary.audioTokens else 0

/-- `baseTokens`. A sub-category of 0 is not subtracted, which makes no difference. -/
def baseTokens (audioInputPrice : Rat) : Int :=
  let inside := summary.cacheInside legacyClaudeDerived
  let base := summary.promptTokens
  let base := if inside then base - summary.cacheTokens else base
  let base := if inside then base - summary.cacheCreationTokens else base
  let base := base - summary.imageTokens
  let base := base - summary.pricedAudio audioInputPrice
  if base < 0 then 0 else base

end TokenSummary

def textQuota (relay : TextRelay) (usage : TextUsage) : Int × Option QuotaClamp :=
  let summary := tokenSummary relay usage
  let legacyClaudeDerived := isLegacyClaudeDerivedOpenAIUsage relay usage
  let ratio := relay.modelRatio * relay.groupRatio
  let multiplier := ratioProduct relay.otherRatios.table
  let checked :=
    if relay.usePrice then
      quotaFromDecimalChecked (relay.modelPrice * relay.quotaPerUnit * relay.groupRatio *
        multiplier + relay.toolCallSurchargeQuota)
    else
      let writes := summary.cacheWrites legacyClaudeDerived
      let base := summary.baseTokens legacyClaudeDerived relay.audioInputPrice
      let promptQuota := base + summary.cacheTokens * relay.cacheRatio +
        summary.imageTokens * relay.imageRatio +
        (writes.plain * relay.cacheCreationRatio + writes.fiveMinutes * relay.cacheCreation5mRatio +
          writes.oneHour * relay.cacheCreation1hRatio)
      let completionQuota := summary.completionTokens * relay.completionRatio
      let audioInputQuota := relay.audioInputPrice / 1000000 *
        summary.pricedAudio relay.audioInputPrice * relay.groupRatio * relay.quotaPerUnit
      let quota := ((promptQuota + completionQuota) * ratio + audioInputQuota) * multiplier +
        relay.toolCallSurchargeQuota
      quotaFromDecimalChecked (if ratio ≠ 0 ∧ quota ≤ 0 then 1 else quota)
  if ¬ (0 < summary.totalTokens ∨ relay.toolCallSurchargeQuota ≠ 0) then (0, checked.2)
  else if ratio ≠ 0 ∧ checked.1 = 0 then (1, checked.2)
  else checked

open TokenSummary

section

/-- The input tokens by the category they are billed in. -/
structure InputCount where
  text : Int
  cacheRead : Int
  cacheWrite : Int
  image : Int
  audio : Int
deriving DecidableEq, Repr

/-- What an expression with all variables is handed for a request. -/
def tieredCount (relay : TextRelay) (usage : TextUsage) : InputCount :=
  let params := buildTieredTokenParams usage (isClaudeUsageSemantic relay usage) fun _ => true
  { text := params.p
    cacheRead := params.cr
    cacheWrite := params.cc + params.cc1h
    image := params.img
    audio := params.ai }

def ratioCount (relay : TextRelay) (usage : TextUsage) : InputCount :=
  let summary := tokenSummary relay usage
  let legacyClaudeDerived := isLegacyClaudeDerivedOpenAIUsage relay usage
  { text := summary.baseTokens legacyClaudeDerived relay.audioInputPrice
    cacheRead := summary.cacheTokens
    cacheWrite := (summary.cacheWrites legacyClaudeDerived).total
    image := summary.imageTokens
    audio := summary.pricedAudio relay.audioInputPrice }

def SameInput (first second : InputCount) : Prop :=
  first.text = second.text ∧ first.cacheRead = second.cacheRead ∧
    first.cacheWrite = second.cacheWrite ∧ first.image = second.image

/-- Whether the reported prompt tokens hold the cache: OpenAI's do, and OpenRouter's also for
Claude. -/
def cacheInPrompt (relay : TextRelay) (usage : TextUsage) : Bool :=
  if isClaudeUsageSemantic relay usage then relay.openRouter
  else !isLegacyClaudeDerivedOpenAIUsage relay usage

/-- The text holds no token of a category that is inside the prompt tokens, unless these categories
are more than the prompt. -/
def CountedOnce (inPrompt : Bool) (promptTokens : Int) (count : InputCount) : Prop :=
  let inside := (if inPrompt then count.cacheRead + count.cacheWrite else 0) + count.image +
    count.audio
  inside ≤ promptTokens → count.text + inside ≤ promptTokens

variable {relay : TextRelay} {usage : TextUsage}

theorem cacheCreationTokensTotal_nonneg (details : InputTokenDetails) :
    0 ≤ details.cacheCreationTokensTotal := by
  unfold InputTokenDetails.cacheCreationTokensTotal
  dsimp only
  split_ifs <;> omega

theorem openRouterCacheCreation_nonneg (relay : TextRelay) (usage : TextUsage) :
    0 ≤ openRouterCacheCreation relay usage := by
  have reported := cacheCreationTokensTotal_nonneg usage.promptTokensDetails
  unfold openRouterCacheCreation
  dsimp only
  split_ifs with _ accepted
  · exact accepted.1
  · exact reported
  · exact reported

def pricedAudioTokens (relay : TextRelay) (usage : TextUsage) : Int :=
  if 0 < relay.audioInputPrice then usage.promptTokensDetails.audioTokens else 0

def tieredWrites (usage : TextUsage) : Int :=
  if usage.usageSemantic = "anthropic" then
    usage.claudeCacheCreation5mTokens + usage.claudeCacheCreation1hTokens
  else usage.promptTokensDetails.cacheCreationTokensTotal

theorem tieredCount_of_claude (nonneg : usage.Nonneg)
    (claude : isClaudeUsageSemantic relay usage = true) :
    tieredCount relay usage =
      { text := usage.promptTokens
        cacheRead := usage.promptTokensDetails.cachedTokens
        cacheWrite := tieredWrites usage
        image := usage.promptTokensDetails.imageTokens
        audio := usage.promptTokensDetails.audioTokens } := by
  have prompt : ¬ usage.promptTokens < 0 := not_lt.mpr nonneg.prompt
  simp only [tieredCount,buildTieredTokenParams,tieredWrites,
    decide_eq_true_eq]
  split_ifs <;> simp

theorem tieredCount_of_openAI (notClaude : isClaudeUsageSemantic relay usage = false) :
    tieredCount relay usage =
      { text := max 0 (usage.promptTokens - usage.promptTokensDetails.cachedTokens -
          usage.promptTokensDetails.cacheCreationTokensTotal -
          usage.promptTokensDetails.imageTokens - usage.promptTokensDetails.audioTokens)
        cacheRead := usage.promptTokensDetails.cachedTokens
        cacheWrite := usage.promptTokensDetails.cacheCreationTokensTotal
        image := usage.promptTokensDetails.imageTokens
        audio := usage.promptTokensDetails.audioTokens } := by
  have notAnthropic : usage.usageSemantic ≠ "anthropic" := by
    intro anthropic
    simp [isClaudeUsageSemantic,usageSemanticFromUsage,anthropic] at notClaude
  simp only [tieredCount,buildTieredTokenParams,notClaude,Bool.false_eq_true,if_false,
    notAnthropic,decide_false,InputCount.mk.injEq,and_true,true_and]
  constructor
  · split_ifs <;> omega
  · omega

theorem cacheWrites_total {summary : TokenSummary} {legacy : Bool}
    (outside : summary.cacheInside legacy = false)
    (write5m : 0 ≤ summary.cacheCreationTokens5m) (write1h : 0 ≤ summary.cacheCreationTokens1h) :
    (summary.cacheWrites legacy).total =
      max summary.cacheCreationTokens
        (summary.cacheCreationTokens5m + summary.cacheCreationTokens1h) := by
  unfold cacheWrites CacheWrites.total
  simp only [outside,Bool.false_eq_true,if_false]
  split_ifs <;> simp only <;> omega

theorem pricedAudio_eq (summary : TokenSummary) (price : Rat) :
    summary.pricedAudio price = if 0 < price then summary.audioTokens else 0 := by
  unfold pricedAudio
  by_cases silent : summary.audioTokens = 0 <;> simp [silent]

theorem tokenSummary_of_direct (direct : isOpenRouterClaudeBilling relay usage = false) :
    (tokenSummary relay usage).promptTokens = usage.promptTokens ∧
      (tokenSummary relay usage).cacheCreationTokens =
        usage.promptTokensDetails.cacheCreationTokensTotal := by
  simp [tokenSummary,direct]

theorem ratioCount_of_outside (nonneg : usage.Nonneg)
    (outside : (tokenSummary relay usage).cacheInside
      (isLegacyClaudeDerivedOpenAIUsage relay usage) = false) :
    ratioCount relay usage =
      { text := max 0 ((tokenSummary relay usage).promptTokens -
          usage.promptTokensDetails.imageTokens - pricedAudioTokens relay usage)
        cacheRead := usage.promptTokensDetails.cachedTokens
        cacheWrite := max (tokenSummary relay usage).cacheCreationTokens
          (usage.claudeCacheCreation5mTokens + usage.claudeCacheCreation1hTokens)
        image := usage.promptTokensDetails.imageTokens
        audio := pricedAudioTokens relay usage } := by
  have writes := cacheWrites_total outside nonneg.write5m nonneg.write1h
  simp only [ratioCount,baseTokens,outside,Bool.false_eq_true,if_false,
    pricedAudio_eq]
  congr 1
  change (if _ - usage.promptTokensDetails.imageTokens - pricedAudioTokens relay usage < 0 then 0
    else _ - usage.promptTokensDetails.imageTokens - pricedAudioTokens relay usage) = _
  split_ifs <;> omega

theorem ratioCount_of_openAI (notClaude : isClaudeUsageSemantic relay usage = false)
    (notLegacy : isLegacyClaudeDerivedOpenAIUsage relay usage = false) :
    ratioCount relay usage =
      { text := max 0 (usage.promptTokens - usage.promptTokensDetails.cachedTokens -
          usage.promptTokensDetails.cacheCreationTokensTotal -
          usage.promptTokensDetails.imageTokens - pricedAudioTokens relay usage)
        cacheRead := usage.promptTokensDetails.cachedTokens
        cacheWrite := usage.promptTokensDetails.cacheCreationTokensTotal
        image := usage.promptTokensDetails.imageTokens
        audio := pricedAudioTokens relay usage } := by
  obtain ⟨prompt,created⟩ : _ ∧ (tokenSummary relay usage).cacheCreationTokens = _ :=
    tokenSummary_of_direct (by simp [isOpenRouterClaudeBilling,notClaude])
  have inside : (tokenSummary relay usage).cacheInside false = true := by
    simp [cacheInside,tokenSummary,notClaude]
  have writes : ((tokenSummary relay usage).cacheWrites false).total =
      usage.promptTokensDetails.cacheCreationTokensTotal := by
    unfold cacheWrites CacheWrites.total
    simp only
    split_ifs <;> simp only <;> omega
  simp only [ratioCount,notLegacy,baseTokens,inside,pricedAudio_eq,prompt]
  congr 1
  change (if usage.promptTokens - usage.promptTokensDetails.cachedTokens - _ -
      usage.promptTokensDetails.imageTokens - pricedAudioTokens relay usage < 0 then 0
    else usage.promptTokens - usage.promptTokensDetails.cachedTokens - _ -
      usage.promptTokensDetails.imageTokens - pricedAudioTokens relay usage) = _
  split_ifs <;> omega

/-- The usages that both paths count alike, by what they are. An OpenAI usage needs a price for its
audio, if it has any text. The other kinds need more: a usage that Claude's cache was folded into
has no text at all, the cache writes of a Claude usage are all in the field that tiered billing
reads, and neither images nor, with OpenRouter, the cache share the prompt with any text. -/
def CountsAgree (relay : TextRelay) (usage : TextUsage) : Prop :=
  let prompt := usage.promptTokens
  let details := usage.promptTokensDetails
  let reported := details.cacheCreationTokensTotal
  let split := usage.claudeCacheCreation5mTokens + usage.claudeCacheCreation1hTokens
  let audioPriced := 0 < relay.audioInputPrice
  if isClaudeUsageSemantic relay usage then
    if relay.openRouter then
      let created := openRouterCacheCreation relay usage
      max created split = tieredWrites usage ∧
        (prompt = 0 ∨
          details.cachedTokens = 0 ∧ created = 0 ∧ details.imageTokens = 0 ∧
            (split = 0 ∨ prompt < split) ∧
            (details.audioTokens = 0 ∨ ¬ audioPriced ∧ prompt < split + details.audioTokens))
    else
      max reported split = tieredWrites usage ∧
        (prompt = 0 ∨
          details.imageTokens = 0 ∧
            (details.audioTokens = 0 ∨ ¬ audioPriced ∧ prompt < details.audioTokens))
  else if isLegacyClaudeDerivedOpenAIUsage relay usage then
    prompt ≤ details.imageTokens + pricedAudioTokens relay usage ∧ split ≤ reported
  else
    audioPriced ∨ details.audioTokens = 0 ∨
      prompt ≤ details.cachedTokens + reported + details.imageTokens

theorem pricedAudioTokens_cases (relay : TextRelay) (usage : TextUsage) :
    (0 < relay.audioInputPrice ∧
        pricedAudioTokens relay usage = usage.promptTokensDetails.audioTokens) ∨
      (¬ 0 < relay.audioInputPrice ∧ pricedAudioTokens relay usage = 0) := by
  by_cases priced : 0 < relay.audioInputPrice
  · exact .inl ⟨priced,if_pos priced⟩
  · exact .inr ⟨priced,if_neg priced⟩

/-- Both paths count the same text, cache reads, cache writes and images, and neither counts a
token twice, exactly for the usages above. -/
theorem tiered_and_ratio_count_alike_iff (relay : TextRelay) (usage : TextUsage)
    (nonneg : usage.Nonneg) :
    (SameInput (tieredCount relay usage) (ratioCount relay usage) ∧
        CountedOnce (cacheInPrompt relay usage) usage.promptTokens (tieredCount relay usage) ∧
        CountedOnce (cacheInPrompt relay usage) usage.promptTokens (ratioCount relay usage)) ↔
      CountsAgree relay usage := by
  obtain ⟨prompt,-,cached,audio,image,write5m,write1h⟩ := id nonneg
  have audioCases := pricedAudioTokens_cases relay usage
  unfold CountsAgree cacheInPrompt
  by_cases claude : isClaudeUsageSemantic relay usage = true
  · have outside : (tokenSummary relay usage).cacheInside
        (isLegacyClaudeDerivedOpenAIUsage relay usage) = false := by
      simp [TokenSummary.cacheInside,tokenSummary,claude]
    rw [tieredCount_of_claude nonneg claude,ratioCount_of_outside nonneg outside]
    cases openRouter : relay.openRouter with
    | true =>
      have created := openRouterCacheCreation_nonneg relay usage
      have summaryOf : (tokenSummary relay usage).promptTokens =
          usage.promptTokens - usage.promptTokensDetails.cachedTokens -
            openRouterCacheCreation relay usage ∧
          (tokenSummary relay usage).cacheCreationTokens = openRouterCacheCreation relay usage := by
        simp [tokenSummary,isOpenRouterClaudeBilling,openRouter,claude]
      rcases audioCases with ⟨priced,audioIs⟩ | ⟨priced,audioIs⟩
      all_goals
        simp [claude,SameInput,CountedOnce,priced]
        omega
    | false =>
      have summaryOf : (tokenSummary relay usage).promptTokens = _ ∧ _ :=
        tokenSummary_of_direct (by simp [isOpenRouterClaudeBilling,openRouter])
      rcases audioCases with ⟨priced,audioIs⟩ | ⟨priced,audioIs⟩
      all_goals
        simp [claude,SameInput,CountedOnce,priced]
        omega
  · rw [Bool.not_eq_true] at claude
    rw [tieredCount_of_openAI claude]
    by_cases legacy : isLegacyClaudeDerivedOpenAIUsage relay usage = true
    · have outside : (tokenSummary relay usage).cacheInside
          (isLegacyClaudeDerivedOpenAIUsage relay usage) = false := by
        simp [TokenSummary.cacheInside,legacy]
      have summaryOf : (tokenSummary relay usage).promptTokens = _ ∧ _ :=
        tokenSummary_of_direct (by simp [isOpenRouterClaudeBilling,claude])
      have split : 0 < usage.claudeCacheCreation5mTokens + usage.claudeCacheCreation1hTokens := by
        have either : 0 < usage.claudeCacheCreation5mTokens ∨
            0 < usage.claudeCacheCreation1hTokens := by
          unfold isLegacyClaudeDerivedOpenAIUsage at legacy
          split_ifs at legacy
          simpa using legacy
        omega
      rw [ratioCount_of_outside nonneg outside]
      simp only [claude,legacy,if_true,Bool.false_eq_true,if_false,SameInput,
        CountedOnce,true_and,and_true]
      all_goals
        omega
    · rw [Bool.not_eq_true] at legacy
      rw [ratioCount_of_openAI claude legacy]
      simp only [claude,legacy,if_true,Bool.false_eq_true,if_false,Bool.not_false,SameInput,
        CountedOnce,and_true]
      rcases audioCases with ⟨priced,audioIs⟩ | ⟨unpriced,audioIs⟩
      · simp only [priced,true_or,iff_true]
        omega
      · simp only [unpriced,false_or]
        omega

def textRelay (finalFormatClaude openRouter : Bool) : TextRelay where
  finalFormatClaude := finalFormatClaude
  openRouter := openRouter
  usePrice := false
  customModelRatio := true
  modelPrice := 0
  modelRatio := 1
  groupRatio := 1
  completionRatio := 5
  cacheRatio := 1 / 10
  imageRatio := 1
  cacheCreationRatio := 5 / 4
  cacheCreation5mRatio := 5 / 4
  cacheCreation1hRatio := 2
  otherRatios := .empty
  quotaPerUnit := 500000
  audioInputPrice := 0
  toolCallSurchargeQuota := 0

def cachedUsage : TextUsage where
  promptTokens := 1000
  completionTokens := 10
  usageSemantic := ""
  usageSource := ""
  promptTokensDetails :=
    { cachedTokens := 800
      cachedCreationTokens := 0
      cacheWriteTokens := 0
      audioTokens := 0
      imageTokens := 0 }
  completionImageTokens := 0
  completionAudioTokens := 0
  claudeCacheCreation5mTokens := 0
  claudeCacheCreation1hTokens := 0
  cost := 0
  costIsIntZero := false

/-- In a Claude request over OpenRouter tiered billing counts the cached tokens as text too. -/
theorem openRouter_cache_counted_twice :
    (tieredCount (textRelay true true) cachedUsage).text = 1000 ∧
      (tieredCount (textRelay true true) cachedUsage).cacheRead = 800 ∧
      (ratioCount (textRelay true true) cachedUsage).text = 200 := by
  decide +kernel

/-- In an OpenAI request both count 200 tokens of text. -/
theorem openAI_cache_counted_once :
    SameInput (tieredCount (textRelay false false) cachedUsage)
        (ratioCount (textRelay false false) cachedUsage) ∧
      CountedOnce (cacheInPrompt (textRelay false false) cachedUsage) 1000
        (tieredCount (textRelay false false) cachedUsage) ∧
      CountedOnce (cacheInPrompt (textRelay false false) cachedUsage) 1000
        (ratioCount (textRelay false false) cachedUsage) :=
  (tiered_and_ratio_count_alike_iff (textRelay false false) cachedUsage
    ⟨by decide,by decide,by decide,by decide,by decide,by decide,by decide⟩).mpr
    (.inr (.inl rfl))

/-- A request that is billed by a ratio is free exactly when it has no tokens and no surcharge,
and is never paid for. -/
theorem textQuota_free_iff (relay : TextRelay) (usage : TextUsage)
    (byRatio : relay.usePrice = false) (ratio : relay.modelRatio * relay.groupRatio ≠ 0) :
    let quota := (textQuota relay usage).1
    0 ≤ quota ∧ quota ≤ maxQuota ∧ (quota = 0 ↔
      ¬ (0 < usage.promptTokens + usage.completionTokens ∨ relay.toolCallSurchargeQuota ≠ 0)) := by
  have one : (1 : Int) ≤ maxQuota := by decide
  simp only [textQuota,byRatio,Bool.false_eq_true,if_false,ne_eq,ratio,not_false_eq_true,true_and,
    tokenSummary]
  generalize ((_ + _) * _ + _) * _ + relay.toolCallSurchargeQuota = price
  have within := @quotaFromDecimalChecked_within (if price ≤ 0 then 1 else price)
    (by split_ifs <;> linarith)
  generalize quotaFromDecimalChecked _ = checked at within
  split_ifs with billed rounded
  · simp [billed,one]
  · simp [billed,rounded,within]
  · exact ⟨le_rfl,zero_le_one.trans one,iff_of_true rfl billed⟩

theorem cachedUsage_not_free : (textQuota (textRelay false false) cachedUsage).1 ≠ 0 :=
  fun free =>
    (textQuota_free_iff _ cachedUsage rfl (by decide +kernel)).2.2.mp free (.inl (by decide))

end

end NewApi
