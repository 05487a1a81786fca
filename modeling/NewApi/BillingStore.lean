import NewApi.SubscriptionConsumption

/-!
# Wallet and token quota

In batch mode a change is queued and added to the row later. The Redis hash of a row only decides
whether a reservation goes through; its answers are parameters here.
-/

namespace NewApi

structure TokenQuota where
  remainQuota : Int
  usedQuota : Int
deriving DecidableEq, Repr

structure BillingStore where
  users : Int → Option Int
  tokens : Int → Option TokenQuota
  queuedUserQuota : Int → Int
  queuedTokenQuota : Int → Int
  subscriptions : SubscriptionStore

structure BillingConfig where
  redisEnabled : Bool
  batchUpdateEnabled : Bool
  trustQuota : Int
  formatQuota : Int → String

namespace BillingStore

variable (store : BillingStore) (id delta : Int)

def addUserQuota : BillingStore :=
  { store with users := Function.update store.users id ((store.users id).map (· + delta)) }

def addTokenQuota : BillingStore :=
  { store with
    tokens := Function.update store.tokens id ((store.tokens id).map fun token =>
      { remainQuota := token.remainQuota + delta, usedQuota := token.usedQuota - delta }) }

def queueUserQuota : BillingStore :=
  { store with
    queuedUserQuota := Function.update store.queuedUserQuota id (store.queuedUserQuota id + delta) }

def queueTokenQuota : BillingStore :=
  { store with
    queuedTokenQuota :=
      Function.update store.queuedTokenQuota id (store.queuedTokenQuota id + delta) }

end BillingStore

def negativeQuota : GoError := .message "quota 不能为负数！"

/-- The shared body of the four unconditional writers: refuse a negative
`quota`, queue the change in batch mode, or run one update statement. -/
def changeQuota (queues : Bool) (fault : Option GoError) (quota : Int)
    (queue update : BillingStore → BillingStore) (store : BillingStore) :
    Except GoError Unit × BillingStore :=
  if quota < 0 then (.error negativeQuota, store)
  else if queues then (.ok (), queue store)
  else
    match fault with
    | some error => (.error error, store)
    | none => (.ok (), update store)

def increaseUserQuota (config : BillingConfig) (fault : Option GoError) (id quota : Int)
    (db : Bool) : BillingStore → Except GoError Unit × BillingStore :=
  changeQuota (!db && config.batchUpdateEnabled) fault quota
    (·.queueUserQuota id quota) (·.addUserQuota id quota)

def decreaseUserQuota (config : BillingConfig) (fault : Option GoError) (id quota : Int)
    (db : Bool) : BillingStore → Except GoError Unit × BillingStore :=
  changeQuota (!db && config.batchUpdateEnabled) fault quota
    (·.queueUserQuota id (-quota)) (·.addUserQuota id (-quota))

def increaseTokenQuota (config : BillingConfig) (fault : Option GoError) (id quota : Int) :
    BillingStore → Except GoError Unit × BillingStore :=
  changeQuota config.batchUpdateEnabled fault quota
    (·.queueTokenQuota id quota) (·.addTokenQuota id quota)

def decreaseTokenQuota (config : BillingConfig) (fault : Option GoError) (id quota : Int) :
    BillingStore → Except GoError Unit × BillingStore :=
  changeQuota config.batchUpdateEnabled fault quota
    (·.queueTokenQuota id (-quota)) (·.addTokenQuota id (-quota))

/-- The answer of a reserve script run in Redis. -/
inductive CacheAnswer where
  | unavailable
  | insufficient
  | reserved
  | miss
deriving DecidableEq, Repr

/-- What one reservation meets: the script, the refill of a missing hash, the
script again, and the database statement. -/
structure ReserveAnswers where
  script : CacheAnswer
  hydrated : Bool
  scriptAgain : CacheAnswer
  database : Option GoError
deriving DecidableEq, Repr

/-- The shared body of `TryReserveUserQuota` and `TryReserveTokenQuota`. -/
def reserveThroughCache (config : BillingConfig) (answers : ReserveAnswers)
    (reserveDB persist : BillingStore → Except GoError Bool × BillingStore)
    (store : BillingStore) : Except GoError Bool × BillingStore :=
  if config.redisEnabled = false then reserveDB store
  else
    let answer :=
      if answers.script = .miss ∧ answers.hydrated = true then answers.scriptAgain
      else answers.script
    match answer with
    | .unavailable => reserveDB store
    | .miss => reserveDB store
    | .insufficient => (.ok false, store)
    | .reserved => persist store

def reserveUserQuotaDB (fault : Option GoError) (id quota : Int) (store : BillingStore) :
    Except GoError Bool × BillingStore :=
  match fault, store.users id with
  | some error, _ => (.error error, store)
  | none, none => (.ok false, store)
  | none, some stored =>
    if quota ≤ stored then (.ok true, store.addUserQuota id (-quota)) else (.ok false, store)

def reserveTokenQuotaDB (fault : Option GoError) (id quota : Int) (store : BillingStore) :
    Except GoError Bool × BillingStore :=
  match fault, store.tokens id with
  | some error, _ => (.error error, store)
  | none, none => (.ok false, store)
  | none, some token =>
    if quota ≤ token.remainQuota then (.ok true, store.addTokenQuota id (-quota))
    else (.ok false, store)

def persistDelta (config : BillingConfig) (fault : Option GoError) (rowExists : Bool)
    (queue update : BillingStore → BillingStore) (store : BillingStore) :
    Except GoError Bool × BillingStore :=
  if config.batchUpdateEnabled then (.ok true, queue store)
  else
    match fault with
    | some error => (.error error, store)
    | none => if rowExists then (.ok true, update store) else (.error .recordNotFound, store)

def tryReserveUserQuota (config : BillingConfig) (answers : ReserveAnswers) (id quota : Int)
    (store : BillingStore) : Except GoError Bool × BillingStore :=
  if quota < 0 then (.error negativeQuota, store)
  else if quota = 0 then (.ok true, store)
  else
    reserveThroughCache config answers (reserveUserQuotaDB answers.database id quota)
      (persistDelta config answers.database (store.users id).isSome
        (·.queueUserQuota id (-quota)) (·.addUserQuota id (-quota))) store

def tryReserveTokenQuota (config : BillingConfig) (answers : ReserveAnswers) (id quota : Int)
    (unlimited : Bool) (store : BillingStore) : Except GoError Bool × BillingStore :=
  if quota < 0 then (.error negativeQuota, store)
  else if quota = 0 then (.ok true, store)
  else if unlimited then
    match decreaseTokenQuota config answers.database id quota store with
    | (.error error, after) => (.error error, after)
    | (.ok _, after) => (.ok true, after)
  else
    reserveThroughCache config answers (reserveTokenQuotaDB answers.database id quota)
      (persistDelta config answers.database (store.tokens id).isSome
        (·.queueTokenQuota id (-quota)) (·.addTokenQuota id (-quota))) store

end NewApi
