import AiopsTriage.CaseFile.Storage
import AiopsTriage.Contracts
import AiopsTriage.Denylist
import AiopsTriage.Topology.Stage

/-!
# Dispatching a decision

`dispatchAction` is the last stage of a case: a `PAGE` goes to PagerDuty, and a decision
that requires a postmortem to Slack. Neither client ever fails its caller: a call that goes
wrong is logged. So a dispatch always returns, and what became of its calls is in its
report (`DispatchReport`).
-/

namespace AiopsTriage

open Json

/-- `PagerDutyIntegrationMode`, `SlackIntegrationMode`. -/
inductive IntegrationMode where
  /-- drop everything silently -/
  | off
  /-- only log -/
  | log
  /-- log and count -/
  | mock
  /-- log and send -/
  | live
  deriving DecidableEq, Repr

/-- What became of a message to an integration. -/
inductive SendOutcome where
  /-- dropped in `OFF` mode -/
  | dropped
  /-- logged in `LOG` mode -/
  | logged
  /-- logged and counted in `MOCK` mode -/
  | counted
  /-- the client has no address to send to -/
  | unaddressed
  /-- sent -/
  | sent
  /-- the call raised -/
  | failed (error : Failure)
  deriving DecidableEq, Repr

/-- `not address`. -/
def noAddress (address : Option String) : Bool := address.all (· == "")

/-- How a client with a mode and an address sends a message. -/
def sendMessage (mode : IntegrationMode) (address : Option String) (remote : Remote) : SendOutcome :=
  match mode with
  | .off => .dropped
  | .log => .logged
  | .mock => .counted
  | .live =>
    if noAddress address then .unaddressed
    else match remote with
      | .answered => .sent
      | .fails _ e => .failed e

/-! ## PagerDuty -/

/-- `PagerDutyClient`. -/
structure PagerDutyClient where
  /-- the mode -/
  mode : IntegrationMode := .off
  /-- the key of the PagerDuty service -/
  pdRoutingKey : Option String := none
  deriving DecidableEq, Repr

/-- The arguments of `send_page_trigger`; the fingerprint is also the `dedup_key`. -/
structure PageTrigger where
  /-- the case -/
  caseId : String
  /-- the identity of the action -/
  actionFingerprint : String
  /-- the routing key of the topology -/
  routingKey : String
  /-- the text for the one who is paged -/
  summary : String
  deriving DecidableEq, Repr

/-- `PagerDutyClient.send_page_trigger`. -/
def PagerDutyClient.sendPageTrigger (client : PagerDutyClient) (remote : Remote) : SendOutcome :=
  sendMessage client.mode client.pdRoutingKey remote

/-! ## Slack -/

/-- `SlackClient`. -/
structure SlackClient where
  /-- the mode -/
  mode : IntegrationMode := .off
  /-- the webhook -/
  webhookUrl : Option String := none
  deriving DecidableEq, Repr

section Dispatch

variable [Platform]

/-- The sanitised fields of `send_postmortem_notification`. -/
def postmortemFields (caseId : String) (decision : ActionDecisionV1) (routingKey : String)
    (supportChannel : Option String) (denylist : DenylistV1) : List (String × Json) :=
  applyDenylist denylist
    [("case_id", .str caseId),
      ("final_action", .str (StrEnum.value decision.finalAction)),
      ("routing_key", .str routingKey),
      ("support_channel", optText.enc supportChannel),
      ("postmortem_required", .bool decision.postmortemRequired),
      ("reason_codes", texts.enc decision.postmortemReasonCodes)]

/-- `SlackClient.send_postmortem_notification`, once its fields are sanitised. -/
def SlackClient.sendPostmortemNotification (client : SlackClient) (remote : Remote) : SendOutcome :=
  sendMessage client.mode client.webhookUrl remote

/-! ## The stage -/

/-- What a call of `dispatch_action` did. -/
structure DispatchReport where
  /-- the case -/
  caseId : String
  /-- the decision it was called with -/
  decision : ActionDecisionV1
  /-- the page, if the decision is one, and what became of it -/
  page : Option (PageTrigger × SendOutcome)
  /-- the postmortem notice, if one is required, and what became of it -/
  postmortem : Option (List (String × Json) × SendOutcome)

/-- The clients of a dispatch and how their calls go. -/
structure DispatchClients where
  /-- PagerDuty -/
  pagerDuty : PagerDutyClient
  /-- Slack -/
  slack : SlackClient

/-- `dispatch_action`. -/
def dispatchAction (clients : DispatchClients) (denylist : DenylistV1) (caseId : String)
    (decision : ActionDecisionV1) (routingContext : Option TopologyRoutingContext)
    (pageCall slackCall : Remote) : DispatchReport :=
  let routingKey := (routingContext.map TopologyRoutingContext.routingKey).getD "unknown"
  { caseId, decision
    page :=
      if decision.finalAction = .page then
        some
          ({ caseId, routingKey
             actionFingerprint := decision.actionFingerprint
             summary :=
              s!"AIOps PAGE alert — fingerprint={decision.actionFingerprint} routing_key={routingKey}" },
            clients.pagerDuty.sendPageTrigger pageCall)
      else none
    postmortem :=
      if decision.postmortemRequired then
        some
          (postmortemFields caseId decision routingKey
              (routingContext.bind TopologyRoutingContext.supportChannel) denylist,
            clients.slack.sendPostmortemNotification slackCall)
      else none }

/-- Whether the page, if the decision is one, got past PagerDuty. -/
def DispatchReport.completed (report : DispatchReport) : Bool :=
  report.page.all fun page =>
    match page.2 with
    | .failed _ => false
    | _ => true

/-- A page that is sent for real needs PagerDuty to answer. -/
def PageGoesOut (client : PagerDutyClient) (action : Action) (pageCall : Remote) : Prop :=
  action = .page → client.mode = .live → noAddress client.pdRoutingKey = false →
    pageCall = .answered

/-- A dispatch completes exactly when its page goes out. -/
theorem dispatchAction_completed {clients : DispatchClients} {denylist : DenylistV1}
    {caseId : String} {decision : ActionDecisionV1} {routingContext : Option TopologyRoutingContext}
    {pageCall slackCall : Remote} :
    (dispatchAction clients denylist caseId decision routingContext pageCall slackCall).completed =
        true ↔
      PageGoesOut clients.pagerDuty decision.finalAction pageCall := by
  by_cases hpage : decision.finalAction = .page
  · cases hmode : clients.pagerDuty.mode with
    | live =>
      cases haddress : noAddress clients.pagerDuty.pdRoutingKey with
      | true =>
        simp [DispatchReport.completed, dispatchAction, hpage, PagerDutyClient.sendPageTrigger,
          sendMessage, hmode, haddress, PageGoesOut]
      | false =>
        cases pageCall with
        | answered =>
          simp [DispatchReport.completed, dispatchAction, hpage, PagerDutyClient.sendPageTrigger,
            sendMessage, hmode, haddress, PageGoesOut]
        | fails applied e =>
          simp [DispatchReport.completed, dispatchAction, hpage, PagerDutyClient.sendPageTrigger,
            sendMessage, hmode, haddress, PageGoesOut]
    | _ =>
      simp [DispatchReport.completed, dispatchAction, hpage, PagerDutyClient.sendPageTrigger,
        sendMessage, hmode, PageGoesOut]
  · simp [DispatchReport.completed, dispatchAction, hpage, PageGoesOut]

end Dispatch

end AiopsTriage
