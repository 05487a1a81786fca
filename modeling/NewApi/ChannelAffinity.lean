import NewApi.GoStrings

/-!
# The channel that an affinity rule remembers

The channel of a request is written under its full key and looked up under the key without its
namespace, which the cache cleans before it adds the namespace.
-/

namespace NewApi

open GoStrings List

/-- A rule, without the patterns and the key sources that it applies to a request. -/
structure AffinityRule where
  name : String
  ttlSeconds : Int
  includeRuleName : Bool
  includeModelName : Bool
  includeUsingGroup : Bool

/-- A request, with the answers of the patterns of every rule and the texts at its key sources. -/
structure AffinityRequest where
  modelName : String
  usingGroup : String
  matched : AffinityRule → Bool
  sources : AffinityRule → List String
  valueMatched : AffinityRule → String → Bool

structure AffinitySetting where
  enabled : Bool
  switchOnSuccess : Bool
  defaultTTLSeconds : Int
  rules : List AffinityRule

def affinityStart : String := "new-api:channel_affinity:v1:"

/-- `Namespace.FullKey` with the namespace of the affinity cache. -/
def fullKey (key : String) : String :=
  let key := trimSpace key
  if key = "" then ""
  else if hasPrefix key affinityStart then key
  else affinityStart ++ String.ofList (key.toList.dropWhile (· == ':'))

/-- A channel and the time at which it expires, for each full key. -/
abbrev AffinityCache := String → Option (Int × Int)

def AffinityCache.get (cache : AffinityCache) (now : Int) (key : String) : Option Int :=
  if fullKey key = "" then none
  else ((cache (fullKey key)).filter (now < ·.2)).map Prod.fst

def AffinityCache.setWithTTL (cache : AffinityCache) (key : String) (entry : Int × Int) :
    AffinityCache :=
  if fullKey key = "" then cache else Function.update cache (fullKey key) (some entry)

def affinityParts (rule : AffinityRule) (request : AffinityRequest) : List String :=
  (if rule.includeRuleName ∧ rule.name ≠ "" then [rule.name] else []) ++
    (if rule.includeModelName ∧ request.modelName ≠ "" then [request.modelName] else []) ++
    (if rule.includeUsingGroup ∧ request.usingGroup ≠ "" then [request.usingGroup] else [])

def buildCacheKeySuffix (rule : AffinityRule) (request : AffinityRequest) (value : String) :
    String :=
  ":".intercalate (affinityParts rule request ++ [value])

def extractValue (request : AffinityRequest) (rule : AffinityRule) : Option String :=
  ((request.sources rule).map trimSpace).find? (· ≠ "")

def matchedRule (setting : AffinitySetting) (request : AffinityRequest) :
    Option (AffinityRule × String) :=
  setting.rules.findSome? fun rule =>
    if request.matched rule then
      ((extractValue request rule).filter (request.valueMatched rule)).map (rule, ·)
    else none

def AffinitySetting.ttl (setting : AffinitySetting) (seconds : Int) : Int :=
  if seconds ≤ 0 then setting.defaultTTLSeconds else seconds

/-- The channel, and the key and the time to live kept in the context of the request. -/
def getPreferredChannelByAffinity (setting : AffinitySetting) (cache : AffinityCache) (now : Int)
    (request : AffinityRequest) : Option Int × Option (String × Int) :=
  match if setting.enabled then matchedRule setting request else none with
  | none => (none, none)
  | some (rule, value) =>
    let suffix := buildCacheKeySuffix rule request value
    (cache.get now suffix, some (affinityStart ++ suffix, setting.ttl rule.ttlSeconds))

def lifetime (setting : AffinitySetting) (ttlSeconds : Int) : Int :=
  let seconds := setting.ttl ttlSeconds
  if seconds ≤ 0 then 3600 else seconds

/-- `served` is the `channel_id` of the request. -/
def affinityChannel (setting : AffinitySetting) (served channelID : Int) : Int :=
  if setting.switchOnSuccess ∧ 0 < served then served else channelID

def recordChannelAffinity (setting : AffinitySetting) (now served channelID : Int)
    (context : Option (String × Int)) (cache : AffinityCache) : AffinityCache :=
  if channelID ≤ 0 ∨ ¬setting.enabled then cache
  else
    match context with
    | none => cache
    | some (cacheKey, ttlSeconds) =>
      cache.setWithTTL cacheKey
        (affinityChannel setting served channelID, now + lifetime setting ttlSeconds)

/-- The channel preferred for the second request once one was recorded for the first. -/
def preferredAfter (setting : AffinitySetting) (now later served channelID : Int)
    (first second : AffinityRequest) : Option Int :=
  let context := (getPreferredChannelByAffinity setting (fun _ => none) now first).2
  let cache := recordChannelAffinity setting now served channelID context fun _ => none
  (getPreferredChannelByAffinity setting cache later second).1

structure Agree (rule : AffinityRule) (first second : AffinityRequest) (value other : String) :
    Prop where
  value : value = other
  model : rule.includeModelName = true → first.modelName = second.modelName
  group : rule.includeUsingGroup = true → first.usingGroup = second.usingGroup

/-- The rest of the key under which a suffix is looked up. -/
def lookedUp (suffix : String) : List Char :=
  let key := suffix.toList.dropWhile isSpace
  if affinityStart.toList.isPrefixOf key then key.drop affinityStart.toList.length
  else key.dropWhile (· == ':')

/-- Neither a blank, a colon nor the namespace comes first. -/
def PlainStart (suffix : String) : Prop :=
  (∀ c ∈ suffix.toList.head?, isSpace c = false ∧ c ≠ ':') ∧
    affinityStart.toList.isPrefixOf suffix.toList = false

/-- Requests that agree have a suffix that is looked up as it is, and those that do not agree
have suffixes that stay apart. -/
def KeysTellApart (rule : AffinityRule) (first second : AffinityRequest) (value other : String) :
    Prop :=
  let suffix := buildCacheKeySuffix rule second other
  (Agree rule first second value other → PlainStart suffix) ∧
    (lookedUp suffix = (buildCacheKeySuffix rule first value).toList →
      Agree rule first second value other)

def EndsClean (text : String) : Prop :=
  ∃ c, text.toList.getLast? = some c ∧ isSpace c = false

section

variable {suffix text : String}

theorem endsClean_trimSpace (named : trimSpace text ≠ "") : EndsClean (trimSpace text) := by
  have last := head?_dropWhile_not isSpace (text.toList.dropWhile isSpace).reverse
  unfold EndsClean
  rw [trimSpace,trimFunc,String.toList_ofList,getLast?_reverse]
  split at last
  case h_1 c isLast => exact ⟨c,isLast,last⟩
  case h_2 empty =>
    rw [head?_eq_none_iff] at empty
    exact absurd (by rw [trimSpace,trimFunc,empty]; rfl) named

theorem EndsClean.append (clean : EndsClean text) (front : String) : EndsClean (front ++ text) := by
  obtain ⟨c,last,kept⟩ := clean
  exact ⟨c,by simp [last],kept⟩

theorem EndsClean.trimSpace_eq (clean : EndsClean text) :
    trimSpace text = String.ofList (text.toList.dropWhile isSpace) ∧ trimSpace text ≠ "" := by
  obtain ⟨c,last,kept⟩ := clean
  obtain ⟨front,chars⟩ := getLast?_eq_some_iff.mp last
  have leading : text.toList.dropWhile isSpace = front.dropWhile isSpace ++ [c] := by
    rw [chars,dropWhile_append]
    split <;> simp_all
  rw [trimSpace,trimFunc,leading]
  simp [kept]

theorem EndsClean.fullKey_eq (clean : EndsClean text) :
    fullKey text = affinityStart ++ String.ofList (lookedUp text) := by
  obtain ⟨trimmed,some_⟩ := clean.trimSpace_eq
  simp only [fullKey,if_neg some_]
  simp only [hasPrefix,lookedUp,trimmed,String.toList_ofList]
  split
  case isTrue starts =>
    obtain ⟨rest,chars⟩ := isPrefixOf_iff_prefix.mp starts
    simp [← chars]
  case isFalse => rfl

theorem lookedUp_start : lookedUp (affinityStart ++ suffix) = suffix.toList := by
  have unspaced : (affinityStart ++ suffix).toList.dropWhile isSpace =
      affinityStart.toList ++ suffix.toList := by
    rw [String.toList_append]
    rfl
  simp only [lookedUp,unspaced]
  simp

theorem dropWhile_eq_self_iff_head {drop : Char → Bool} {chars : List Char} :
    chars.dropWhile drop = chars ↔ ∀ c ∈ chars.head?, drop c = false := by
  cases chars <;> simp

theorem lookedUp_eq_self_iff : lookedUp suffix = suffix.toList ↔ PlainStart suffix := by
  constructor
  · intro same
    have cleaned : lookedUp suffix <:+ suffix.toList.dropWhile isSpace := by
      dsimp only [lookedUp]
      split
      exacts [drop_suffix _ _,dropWhile_suffix _]
    have unspaced := (dropWhile_suffix isSpace).eq_of_length_le (same ▸ cleaned.length_le)
    simp only [lookedUp,unspaced] at same
    split at same
    case isTrue starts =>
      have shorter := congrArg length same
      have namespaced := isPrefixOf_iff_prefix.mp starts
      have long := namespaced.length_le
      rw [length_drop,show affinityStart.toList.length = 28 from rfl] at *
      omega
    case isFalse noNamespace =>
      rw [dropWhile_eq_self_iff_head] at same unspaced
      refine ⟨fun c first => ⟨unspaced c first,?_⟩,Bool.eq_false_iff.mpr noNamespace⟩
      simpa using same c first
  · intro ⟨clean,noNamespace⟩
    have unspaced := dropWhile_eq_self_iff_head.mpr fun c first => (clean c first).1
    simp only [lookedUp,unspaced,noNamespace]
    exact dropWhile_eq_self_iff_head.mpr fun c first => by simpa using (clean c first).2

theorem endsClean_suffix (rule : AffinityRule) (request : AffinityRequest)
    (clean : EndsClean text) : EndsClean (buildCacheKeySuffix rule request text) := by
  unfold buildCacheKeySuffix
  cases affinityParts rule request with
  | nil => simpa using clean
  | cons part parts =>
    rw [String.intercalate_append_of_ne_nil (by simp) (by simp)]
    exact clean.append _

end

variable {setting : AffinitySetting} {rule : AffinityRule} {first second : AffinityRequest}
  {value other : String}

theorem endsClean_of_matchedRule (isMatch : matchedRule setting first = some (rule, value)) :
    EndsClean value := by
  obtain ⟨tried,-,found⟩ := exists_of_findSome?_eq_some isMatch
  simp only [Option.ite_none_right_eq_some,Option.map_eq_some_iff,
    Option.filter_eq_some_iff] at found
  obtain ⟨-,text,⟨extracted,-⟩,same⟩ := found
  obtain ⟨-,rfl⟩ := Prod.mk.inj same
  obtain ⟨raw,-,rfl⟩ := mem_map.mp (mem_of_find?_eq_some extracted)
  exact endsClean_trimSpace (by simpa using find?_some extracted)

theorem Agree.suffix_eq (agree : Agree rule first second value other) :
    buildCacheKeySuffix rule first value = buildCacheKeySuffix rule second other := by
  obtain ⟨rfl,model,group⟩ := agree
  unfold buildCacheKeySuffix affinityParts
  cases byModel : rule.includeModelName <;> cases byGroup : rule.includeUsingGroup <;>
    simp_all

def byGroup : AffinityRule := ⟨"", 60, false, false, true⟩

def byGroupOnly : AffinitySetting := ⟨true, true, 3600, [byGroup]⟩

def affinityRequest (usingGroup value : String) : AffinityRequest where
  modelName := "gpt"
  usingGroup := usingGroup
  matched _ := true
  sources _ := [value]
  valueMatched _ _ := true

end NewApi
