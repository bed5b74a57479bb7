import AiopsTriage.Gating.Version1

/-!
# The dedupe store

`RedisActionDedupeStore` on a reachable Redis. A key is held with the instant it
expires at; `GET` and `SET NX EX` each read and write the keys at the server's time.
So AG5's two calls come down to one question (`ask_redis`): is the fingerprint live?
If it is, the answer is a duplicate and nothing changes; if not, the fingerprint is
registered until the time to live of the action runs out.
-/

namespace AiopsTriage

/-! ## Times to live -/

/-- `AG5DedupeTtlConfig`, with its validator as fields. -/
structure AG5DedupeTtlConfig where
  /-- for `PAGE` -/
  pageSeconds : Int := 7200
  /-- for `TICKET` -/
  ticketSeconds : Int := 14400
  /-- for the others -/
  notifySeconds : Int := 3600
  /-- `_require_positive` -/
  page_pos : 0 < pageSeconds := by decide
  /-- `_require_positive` -/
  ticket_pos : 0 < ticketSeconds := by decide
  /-- `_require_positive` -/
  notify_pos : 0 < notifySeconds := by decide

/-- `AG5DedupeTtlConfig.ttl_for_action`. -/
def AG5DedupeTtlConfig.ttlForAction (config : AG5DedupeTtlConfig) : Action → Int
  | .page => config.pageSeconds
  | .ticket => config.ticketSeconds
  | _ => config.notifySeconds

/-- `_FR33_DEFAULT_TTL`. -/
def fr33DefaultTtl : List (String × Int) := [("PAGE", 7200), ("TICKET", 14400), ("NOTIFY", 3600)]

/-- `RedisActionDedupeStore._ttl_for_action`. -/
def ttlForAction (ttlConfig : Option AG5DedupeTtlConfig) (action : Action) : Int :=
  match ttlConfig with
  | some config => config.ttlForAction action
  | none => (Dict.find (StrEnum.value action) fr33DefaultTtl).getD 3600

/-- Every window is open for some time. -/
theorem ttlForAction_pos (ttlConfig : Option AG5DedupeTtlConfig) (action : Action) :
    0 < ttlForAction ttlConfig action := by
  cases ttlConfig with
  | none => cases action <;> decide
  | some config =>
    cases action with
    | page => exact config.page_pos
    | ticket => exact config.ticket_pos
    | notify => exact config.notify_pos
    | observe => exact config.notify_pos

/-! ## Redis -/

/-- The keys of a Redis server, each with the instant it expires at. -/
abbrev RedisKeys := Dict String Instant

namespace RedisKeys

/-- Whether `GET key` finds a value at a server time: the key is **live**. -/
def live (keys : RedisKeys) (now : Instant) (key : String) : Bool :=
  (keys.get? key).any fun expiry => decide (now < expiry)

/-- `SET key "1" NX EX ttl` at a server time, and whether it was set. -/
def setNxEx (keys : RedisKeys) (now : Instant) (key : String) (ttl : Int) : Bool × RedisKeys :=
  if keys.live now key then (false, keys) else (true, keys.set key (now + ttl * 1000000))

variable {keys : RedisKeys} {now : Instant} {key : String}

theorem live_iff : keys.live now key = true ↔ ∃ expiry, keys.get? key = some expiry ∧ now < expiry := by
  simp [live, Option.any_eq_true]

/-- A live key is left as it is. -/
theorem setNxEx_of_live (h : keys.live now key = true) (ttl : Int) :
    keys.setNxEx now key ttl = (false, keys) := if_pos h

/-- A key that is not live gets its new expiry. -/
theorem setNxEx_of_not_live (h : keys.live now key = false) (ttl : Int) :
    keys.setNxEx now key ttl = (true, keys.set key (now + ttl * 1000000)) :=
  if_neg (Bool.eq_false_iff.mp h)

end RedisKeys

/-! ## The store -/

/-- The Redis key of a fingerprint. -/
def dedupeKey (fingerprint : String) : String := "dedupe:" ++ fingerprint

theorem dedupeKey_injective : Function.Injective dedupeKey := by
  intro a b h
  have hlist := congrArg String.toList h
  simp only [dedupeKey, String.toList_append] at hlist
  exact String.toList_inj.mp (List.append_cancel_left hlist)

/-- `RedisActionDedupeStore` while Redis answers, at a server time. -/
def redisStore (ttlConfig : Option AG5DedupeTtlConfig) (now : Instant) : DedupeStore RedisKeys where
  isDuplicate fingerprint keys := (.ok (keys.live now (dedupeKey fingerprint)), keys)
  remember fingerprint action keys :=
    let (added, keys) := keys.setNxEx now (dedupeKey fingerprint) (ttlForAction ttlConfig action)
    (.ok added, keys)

/-- The instant at which the window of an action opened at `now` closes. -/
def windowEnd (ttlConfig : Option AG5DedupeTtlConfig) (now : Instant) (action : Action) : Instant :=
  now + ttlForAction ttlConfig action * 1000000

/-- **AG5 and Redis**: a live fingerprint is a duplicate; another one is registered. -/
theorem ask_redis {ttlConfig : Option AG5DedupeTtlConfig} {now : Instant} {fingerprint : String}
    {action : Action} {keys : RedisKeys} :
    (redisStore ttlConfig now).ask fingerprint action keys =
      if keys.live now (dedupeKey fingerprint) then (.duplicate, keys)
      else (.registered,
        keys.set (dedupeKey fingerprint) (windowEnd ttlConfig now action)) := by
  cases hlive : keys.live now (dedupeKey fingerprint) with
  | true => simp [DedupeStore.ask, redisStore, hlive]
  | false =>
    have hset := RedisKeys.setNxEx_of_not_live hlive (ttlForAction ttlConfig action)
    simp [DedupeStore.ask, redisStore, hlive, hset, windowEnd]

/-- A store that has no fingerprint yet. -/
theorem redisStore_fresh (now : Instant) (fingerprint : String) :
    (redisStore none now).Fresh fingerprint .empty where
  isDuplicate := rfl
  remember _ := ⟨_, rfl⟩

end AiopsTriage
