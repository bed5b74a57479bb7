import AiopsTriage.HotPath.Loop
import AiopsTriage.HotPath.Wiring

/-!
# Cycles on one anomaly

The sustained volume drop on a tier 0 sink again, with a topology context that proposes to
page. Its gate input gets through every gate, so its decision is a `PAGE`.
-/

namespace AiopsTriage

/-- The topology of the orders topic when it is on a stream, with a context that proposes a page. -/
def topologyOn (streamId : String) : TopologyStageOutput where
  contextByScope := .ofPairs [(ordersScope,
    { streamId := streamId
      topicRole := .sink
      criticalityTier := .tier0
      proposedAction := .page
      diagnosisConfidence := .finite 1 })]
  impactByScope := .ofPairs [(ordersScope, { blastRadius := .sharedKafkaIngestion })]
  routingByScope := .ofPairs [(ordersScope,
    { lookupLevel := .platformDefault
      routingKey := "platform"
      owningTeamId := "team-1"
      owningTeamName := "Platform" })]

theorem topologyOn_aligned (streamId : String) : (topologyOn streamId).Aligned := by
  constructor
  · intro scope
    simp only [topologyOn, Dict.ofPairs, List.foldl_cons, List.foldl_nil, Dict.get?_set]
    split <;> rfl
  · intro scope
    simp only [topologyOn, Dict.ofPairs, List.foldl_cons, List.foldl_nil, Dict.get?_set]
    split <;> rfl

/-- The topology of the orders topic. -/
def ordersTopology : TopologyStageOutput := topologyOn "stream-orders"

/-- What a cycle at `t` starts from when the topic is on a stream. -/
def feedOn (streamId : String) (t : Instant) (env : RoundEnv) : StageFeed where
  outputs := ⟨ordersEvidence, ordersPeak, topologyOn streamId⟩
  aligned := topologyOn_aligned streamId
  askedAt _ := t
  roundEnv _ := env

/-- What a cycle at `t` starts from. -/
def ordersFeed (t : Instant) (env : RoundEnv) : StageFeed := feedOn "stream-orders" t env

/-- The surroundings of a round at `t` in which every call is answered. -/
def healthyAt (t : Instant) : RoundEnv where
  triageTimestamp := t
  insertedAt := t

/-- A loop with a live PagerDuty and an empty denylist. -/
def ordersConfig : HotPathConfig where
  metricsContractVersion := "v1"
  denylist := ⟨"v1", [], [], v1_ne⟩
  clients := ⟨{ mode := .live, pdRoutingKey := some "pd-service" }, {}⟩

theorem ordersConfig_removesNothing [Platform] : ordersConfig.denylist.RemovesNothing :=
  removesNothing_iff.mpr ⟨fun _ => rfl, fun _ => rfl⟩

/-- Minutes in microseconds. -/
def minutes (n : Nat) : Instant := n * 60000000

/-- A cycle at `t` on the input that pages. -/
def pageCycle (t : Instant) (env : RoundEnv) : Cycle where
  outputs := ⟨ordersEvidence, ordersPeak, ordersTopology⟩
  gateInputsByScope := .ofPairs [(ordersScope, [pageInput])]
  askedAt _ := t
  roundEnv _ := env

end AiopsTriage
