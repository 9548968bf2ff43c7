import Gritty.Lib.Simulation
import Gritty.Relay.RateLimits

/-! The budgets of a server for what it can make the client do, which no reconnect renews. -/

namespace Gritty

/-- What the server can ask of the client only so often. -/
inductive LimitedAction where
  | url
  | clipboardSet
  | tunnelListen
  | agentOpen
  deriving DecidableEq

/-- The limiters of one client, from its launch to its end. -/
structure SecurityLimiters where
  url : RateLimiter
  clipboardSet : RateLimiter
  tunnelListen : RateLimiter
  agentOpen : RateLimiter
  deriving DecidableEq

namespace SecurityLimiters

def new : SecurityLimiters :=
  let window := 30 * second
  { url := .new 2 window
    clipboardSet := .new 5 window
    tunnelListen := .new 2 window
    agentOpen := .new 10 window }

def limiter (limiters : SecurityLimiters) : LimitedAction → RateLimiter
  | .url => limiters.url
  | .clipboardSet => limiters.clipboardSet
  | .tunnelListen => limiters.tunnelListen
  | .agentOpen => limiters.agentOpen

def setLimiter (limiters : SecurityLimiters) (limiter : RateLimiter) :
    LimitedAction → SecurityLimiters
  | .url => { limiters with url := limiter }
  | .clipboardSet => { limiters with clipboardSet := limiter }
  | .tunnelListen => { limiters with tunnelListen := limiter }
  | .agentOpen => { limiters with agentOpen := limiter }

/-- Only the limiter that is set is another one. -/
theorem limiter_setLimiter (limiters : SecurityLimiters) (limiter : RateLimiter)
    (action other : LimitedAction) :
    (limiters.setLimiter limiter action).limiter other =
      if other = action then limiter else limiters.limiter other := by
  cases action <;> cases other <;> rfl

end SecurityLimiters

/-- The settings of a client that decide what the server can ask at all. -/
structure ForwardSettings where
  forwardOpen : Bool
  oauthRedirect : Bool
  agent : AgentConfig

/-- What one connection's relay has built up. The next one starts without. -/
structure RelayTables where
  agent : ClientAgentState
  /-- The port on which connections for a tunnel are accepted. -/
  listener : Option UInt16
  deriving DecidableEq

def RelayTables.new : RelayTables := { agent := { channels := ∅ }, listener := none }

/-- What a frame of the server makes the client do. -/
inductive ClientEffect where
  | openUrl (url : String)
  | setClipboard (data : Bytes)
  /-- Try to accept connections on a port. -/
  | listen (port : UInt16)
  /-- Try to connect to the agent. -/
  | connectAgent (channelId : UInt32)
  | notify (frame : Frame)
  deriving DecidableEq

/-- What an effect uses up of the budgets. An answer to the server costs nothing. -/
def ClientEffect.limited : ClientEffect → Option LimitedAction
  | .openUrl _ => some .url
  | .setClipboard _ => some .clipboardSet
  | .listen _ => some .tunnelListen
  | .connectAgent _ => some .agentOpen
  | .notify _ => none

/-- A client over all its connections, as far as the server can use it. -/
structure LimitedClient where
  now : Nat
  /-- The monotonic clock. -/
  instant : Nat
  lastInputAt : Nat
  limiters : SecurityLimiters
  /-- The relay of the present connection. Between two connections there is none. -/
  relay : Option RelayTables
  deriving DecidableEq

/-- What can happen next. -/
inductive LimitedStep where
  | elapse (wall monotonic : Nat)
  | keystroke
  /-- A frame of the server, where the agent can be reached or not, and a port bound or not. -/
  | serverFrame (frame : Frame) (connected : Option ConnId) (binds : Bool)
  | disconnect
  | reconnect
  deriving DecidableEq

namespace LimitedClient

def new (launchedAt : Nat) : LimitedClient where
  now := launchedAt
  instant := 0
  lastInputAt := launchedAt
  limiters := .new
  relay := some .new

/-- Ask a limiter. -/
def check (client : LimitedClient) (action : LimitedAction) : LimitedClient × Bool :=
  let (limiter, allowed) := (client.limiters.limiter action).check client.instant
  ({ client with limiters := client.limiters.setLimiter limiter action }, allowed)

/-- Only web addresses are opened. -/
def isWebUrl (url : String) : Bool := url.startsWith "http://" || url.startsWith "https://"

/-- The server asks to open a URL. -/
def openUrl (client : LimitedClient) (settings : ForwardSettings) (url : String) :
    LimitedClient × List ClientEffect :=
  if settings.forwardOpen then
    let (client, allowed) := client.check .url
    -- An address that is not opened counts all the same.
    (client, if allowed && isWebUrl url then [.openUrl url] else [])
  else (client, [])

/-- The server asks to set the clipboard. -/
def clipboardSet (client : LimitedClient) (data : Bytes) : LimitedClient × List ClientEffect :=
  let (client, allowed) := client.check .clipboardSet
  (client, if allowed then [.setClipboard data] else [])

/-- The server asks to accept connections on a port, instead of the port before. -/
def tunnelListen (client : LimitedClient) (settings : ForwardSettings) (relay : RelayTables)
    (port : UInt16) (binds : Bool) : LimitedClient × List ClientEffect :=
  let declined := [ClientEffect.notify (.tunnelClose 0)]
  if settings.oauthRedirect then
    let (client, allowed) := client.check .tunnelListen
    if allowed then
      if binds then
        ({ client with relay := some { relay with listener := some port } }, [.listen port])
      -- The listener before is gone, even if the port cannot be bound.
      else ({ client with relay := some { relay with listener := none } }, .listen port :: declined)
    else (client, declined)
  else (client, declined)

/-- The server asks for a channel to the agent. -/
def agentOpen (client : LimitedClient) (settings : ForwardSettings) (relay : RelayTables)
    (channelId : UInt32) (connected : Option ConnId) : LimitedClient × List ClientEffect :=
  let refused := [ClientEffect.notify (.agentClose channelId)]
  if isAgentIdle client.lastInputAt settings.agent.agentIdleTimeout client.now then (client, refused)
  else if settings.agent.agentSocket then
    let (client, allowed) := client.check .agentOpen
    if allowed then
      let (agent, frames) := relay.agent.agentOpen channelId connected
      ({ client with relay := some { relay with agent } },
        .connectAgent channelId :: frames.map .notify)
    else (client, refused)
  else (client, refused)

/-- A frame of the server. -/
def handleServerFrame (client : LimitedClient) (settings : ForwardSettings) (relay : RelayTables)
    (frame : Frame) (connected : Option ConnId) (binds : Bool) :
    LimitedClient × List ClientEffect :=
  match frame with
  | .openUrl url => client.openUrl settings url
  | .clipboardSet data => client.clipboardSet data
  | .clipboardGet => (client, [.notify (.clipboardData [])])
  | .tunnelListen port => client.tunnelListen settings relay port binds
  | .agentOpen channelId => client.agentOpen settings relay channelId connected
  -- No other frame is limited.
  | _ => (client, [])

/-- One step, if it can be taken. -/
def step (settings : ForwardSettings) (client : LimitedClient) : LimitedStep → Option LimitedClient
  | .elapse wall monotonic =>
    some { client with now := client.now + wall, instant := client.instant + monotonic }
  | .keystroke =>
    -- While the client reconnects, what is typed is not counted as input.
    client.relay.map fun _ => { client with lastInputAt := client.now }
  | .serverFrame frame connected binds =>
    client.relay.map fun relay => (client.handleServerFrame settings relay frame connected binds).1
  -- The tables go with the relay, the limiters stay with the client.
  | .disconnect => client.relay.map fun _ => { client with relay := none }
  | .reconnect => if client.relay.isNone then some { client with relay := some .new } else none

end LimitedClient

/-- A client from its launch. -/
def limitedClient (settings : ForwardSettings) (launchedAt : Nat) :
    Machine LimitedClient LimitedStep where
  init := .new launchedAt
  step := LimitedClient.step settings

/-! ### What the server gets out of a client -/

/-- The client would do what the frame asks, if the budget allows it. -/
def Frame.fit : Frame → Bool
  | .openUrl url => LimitedClient.isWebUrl url
  | _ => true

/-- A frame of the server that a client took, and what it did. -/
structure ServedFrame where
  time : Nat
  frame : Frame
  /-- The budget that decides about the frame, if the client's settings let the server ask at all. -/
  asked : Option LimitedAction
  effects : List ClientEffect
  deriving DecidableEq

/-- What the client did that costs. -/
def ServedFrame.spent (served : ServedFrame) : List LimitedAction :=
  served.effects.filterMap ClientEffect.limited

/-- The requests that the budget of an action decides. -/
def requestsOf (action : LimitedAction) (frames : List ServedFrame) : List ServedFrame :=
  frames.filter fun served => served.asked = some action

/-- When an action was done, as often as it was. -/
def timesDone (action : LimitedAction) (frames : List ServedFrame) : List Nat :=
  frames.flatMap fun served => (served.spent.filter (· = action)).map fun _ => served.time

namespace LimitedClient

/-- The budget that a frame gets to. An agent is not even asked for while the user is idle. -/
def asks (client : LimitedClient) (settings : ForwardSettings) : Frame → Option LimitedAction
  | .openUrl _ => if settings.forwardOpen then some .url else none
  | .clipboardSet _ => some .clipboardSet
  | .tunnelListen _ => if settings.oauthRedirect then some .tunnelListen else none
  | .agentOpen _ =>
    if isAgentIdle client.lastInputAt settings.agent.agentIdleTimeout client.now then none
    else if settings.agent.agentSocket then some .agentOpen
    else none
  | _ => none

/-- The frames of the server that a step takes. -/
def served (settings : ForwardSettings) (client : LimitedClient) : LimitedStep → List ServedFrame
  | .serverFrame frame connected binds =>
    client.relay.toList.map fun relay =>
      { time := client.instant
        frame
        asked := client.asks settings frame
        effects := (client.handleServerFrame settings relay frame connected binds).2 }
  | _ => []

/-- All the frames of the server that a client takes, over all its connections. -/
def servedFrames (settings : ForwardSettings) (launchedAt : Nat) (steps : List LimitedStep) :
    List ServedFrame :=
  (limitedClient settings launchedAt).trace (served settings) (.new launchedAt) steps

end LimitedClient

/-- The answers of one limiter that is asked about every request for an action. -/
def answersTo (action : LimitedAction) (frames : List ServedFrame) : RateLimiter × List (Nat × Bool) :=
  (SecurityLimiters.new.limiter action).checks ((requestsOf action frames).map (·.time))

/-- A request is carried out exactly if the answer allows it, and nothing else is. -/
structure Answered (action : LimitedAction) (served : ServedFrame) (answer : Nat × Bool) : Prop where
  time : served.time = answer.1
  spent : served.spent = if answer.2 && served.frame.fit then [action] else []

/-- What a client did of one action for the server, over all its connections. -/
structure WithinBudget (action : LimitedAction) (frames : List ServedFrame) (limiter : RateLimiter) :
    Prop where
  /-- No interval of the window's length has it done more often than the limit. -/
  bounded : NeverMore (SecurityLimiters.new.limiter action).maxCount
    (SecurityLimiters.new.limiter action).window (timesDone action frames)
  /-- Every request is answered by one limiter, which no reconnect renews. -/
  answered : List.Forall₂ (Answered action) (requestsOf action frames) (answersTo action frames).2
  kept : limiter = (answersTo action frames).1
  limits : RateLimiter.Limits (SecurityLimiters.new.limiter action).maxCount
    (SecurityLimiters.new.limiter action).window (answersTo action frames).2 limiter

/-- Times are bounded as those are that they are some of. -/
theorem NeverMore.sublist {limit window : Nat} {times others : List Nat}
    (never : NeverMore limit window others) (some : times.Sublist others) :
    NeverMore limit window times := by
  intro start stop within
  exact Nat.le_trans some.countP_le (never start stop within)

/-- A limiter that is asked once more answers as before, and then the new request. -/
theorem RateLimiter.checks_append (limiter : RateLimiter) (first second : List Nat) :
    limiter.checks (first ++ second) =
      (((limiter.checks first).1.checks second).1,
        (limiter.checks first).2 ++ ((limiter.checks first).1.checks second).2) := by
  induction first generalizing limiter with
  | nil => rfl
  | cons now first ih =>
    -- The first answer is the same, and the limiter it leaves is asked about the others.
    rw [List.cons_append, checks, checks]
    dsimp only
    rw [ih, List.cons_append]

namespace LimitedClient

variable {client : LimitedClient} {settings : ForwardSettings}

/-- What a frame of the server costs, and what becomes of the limiters. -/
structure Spends (client : LimitedClient) (asked : Option LimitedAction) (frame : Frame)
    (handled : LimitedClient × List ClientEffect) : Prop where
  instant : handled.1.instant = client.instant
  limiters : handled.1.limiters = match asked with
    | some action => (client.check action).1.limiters
    | none => client.limiters
  spent : handled.2.filterMap ClientEffect.limited = match asked with
    | some action => if (client.check action).2 && frame.fit then [action] else []
    | none => []

/-- A request for a URL costs one of its budget, also if the URL is not opened. -/
theorem openUrl_spends (url : String) :
    Spends client (client.asks settings (.openUrl url)) (.openUrl url)
      (client.openUrl settings url) := by
  unfold openUrl asks
  cases settings.forwardOpen with
  | false => exact ⟨rfl, rfl, rfl⟩
  | true =>
    refine ⟨rfl, rfl, ?_⟩
    show List.filterMap _ (if ((client.check .url).2 && isWebUrl url) = true then _ else _) =
      if ((client.check .url).2 && isWebUrl url) = true then _ else _
    split <;> rfl

/-- Whatever is put there, the clipboard is set at most once for a request. -/
theorem clipboardSet_spends (data : Bytes) :
    Spends client (some .clipboardSet) (.clipboardSet data) (client.clipboardSet data) := by
  refine ⟨rfl, rfl, ?_⟩
  unfold clipboardSet
  cases allowed : (client.check .clipboardSet).2 with
  | false => simp [allowed]
  | true => simp [allowed, Frame.fit, ClientEffect.limited]

/-- Whatever becomes of the listener, the limiter is asked once. -/
theorem tunnelListen_spends (relay : RelayTables) (port : UInt16) (binds : Bool) :
    Spends client (client.asks settings (.tunnelListen port)) (.tunnelListen port)
      (client.tunnelListen settings relay port binds) := by
  unfold tunnelListen asks
  cases settings.oauthRedirect with
  | false => exact ⟨rfl, rfl, rfl⟩
  | true =>
    dsimp only
    cases allowed : (client.check .tunnelListen).2 with
    | false => exact ⟨rfl, rfl, by simp [allowed, ClientEffect.limited]⟩
    | true =>
      -- A port that cannot be bound was tried.
      cases binds <;> exact ⟨rfl, rfl, by simp [allowed, Frame.fit, ClientEffect.limited]⟩

/-- A channel to the agent costs one try to connect, whether or not the agent answers. -/
theorem agentOpen_spends (relay : RelayTables) (channelId : UInt32) (connected : Option ConnId) :
    Spends client (client.asks settings (.agentOpen channelId)) (.agentOpen channelId)
      (client.agentOpen settings relay channelId connected) := by
  unfold agentOpen asks
  dsimp only
  split
  · exact ⟨rfl, rfl, rfl⟩
  -- The agent is not asked for while the user is idle, nor without one.
  · split
    · cases allowed : (client.check .agentOpen).2 with
      | false => exact ⟨rfl, rfl, by simp [allowed, ClientEffect.limited]⟩
      | true =>
        refine ⟨rfl, rfl, ?_⟩
        simp [allowed, Frame.fit, ClientEffect.limited]
    · exact ⟨rfl, rfl, rfl⟩

/-- A frame of the server spends what its limiter allows, and no other budget. -/
theorem handleServerFrame_spends (relay : RelayTables) (frame : Frame) (connected : Option ConnId)
    (binds : Bool) :
    Spends client (client.asks settings frame) frame
      (client.handleServerFrame settings relay frame connected binds) := by
  cases frame with
  | openUrl url => exact openUrl_spends url
  | clipboardSet data => exact clipboardSet_spends data
  | tunnelListen port => exact tunnelListen_spends relay port binds
  | agentOpen channelId => exact agentOpen_spends relay channelId connected
  | _ => exact ⟨rfl, rfl, rfl⟩

/-- Every limiter is as the requests so far have left it, and every request was answered by it. -/
structure Accounted (client : LimitedClient) (frames : List ServedFrame) : Prop where
  ordered : (frames.map (·.time)).Pairwise (· ≤ ·)
  past : ∀ served ∈ frames, served.time ≤ client.instant
  kept : ∀ action, client.limiters.limiter action = (answersTo action frames).1
  answered : ∀ action, List.Forall₂ (Answered action) (requestsOf action frames)
    (answersTo action frames).2
  /-- Nothing is done of which the budget was not asked. -/
  asked : ∀ served ∈ frames, ∀ action ∈ served.spent, served.asked = some action

/-- A frame is accounted for together with what it leaves. -/
theorem Accounted.serve {frames : List ServedFrame} (accounted : client.Accounted frames)
    (relay : RelayTables) (frame : Frame) (connected : Option ConnId) (binds : Bool) :
    (client.handleServerFrame settings relay frame connected binds).1.Accounted
      (frames ++ [{ time := client.instant
                    frame
                    asked := client.asks settings frame
                    effects :=
                      (client.handleServerFrame settings relay frame connected binds).2 }]) := by
  have spends : Spends client (client.asks settings frame) frame
      (client.handleServerFrame settings relay frame connected binds) :=
    handleServerFrame_spends relay frame connected binds
  generalize client.handleServerFrame settings relay frame connected binds = handled at spends ⊢
  generalize client.asks settings frame = asked at spends ⊢
  obtain ⟨next, effects⟩ := handled
  obtain ⟨instant, limiters, spent⟩ := spends
  dsimp only at instant limiters spent ⊢
  -- What the new frame is among the requests for an action.
  have requests (action : LimitedAction) (last : ServedFrame) :
      requestsOf action (frames ++ [last]) =
        requestsOf action frames ++ if last.asked = some action then [last] else [] := by
    unfold requestsOf
    rw [List.filter_append, List.filter_singleton]
    simp
  refine ⟨?_, ?_, fun action => ?_, fun action => ?_, ?_⟩
  · rw [List.map_append, List.map_singleton]
    refine List.pairwise_append.mpr ⟨accounted.ordered, List.pairwise_singleton .., ?_⟩
    intro time among now is
    obtain ⟨served, before, rfl⟩ := List.mem_map.mp among
    obtain rfl := List.mem_singleton.mp is
    exact accounted.past served before
  · rw [instant]
    exact List.forall_mem_append.mpr
      ⟨accounted.past, List.forall_mem_singleton.mpr (Nat.le_refl client.instant)⟩
  -- Only the limiter that was asked is another one.
  · unfold answersTo
    rw [requests]
    dsimp only
    have before := accounted.kept action
    unfold answersTo at before
    cases asked with
    | none => rw [limiters, if_neg (by simp), List.append_nil, before]
    | some other =>
      rw [limiters]
      show (client.limiters.setLimiter _ other).limiter action = _
      rw [SecurityLimiters.limiter_setLimiter]
      by_cases same : action = other
      · subst same
        rw [if_pos rfl, if_pos rfl, List.map_append, RateLimiter.checks_append, ← before]
        rfl
      · rw [if_neg same, if_neg (by simpa using Ne.symm same), List.append_nil, before]
  -- The request for it was answered by that limiter.
  · have before := accounted.kept action
    have answered := accounted.answered action
    unfold answersTo at before answered ⊢
    rw [requests]
    dsimp only
    by_cases same : asked = some action
    · subst same
      rw [if_pos rfl, List.map_append, RateLimiter.checks_append, ← before]
      refine List.rel_append answered (.cons ⟨rfl, ?_⟩ .nil)
      exact spent
    · rw [if_neg same, List.append_nil]
      exact answered
  · refine List.forall_mem_append.mpr ⟨accounted.asked, List.forall_mem_singleton.mpr ?_⟩
    intro action among
    rw [ServedFrame.spent, spent] at among
    cases asked with
    | none => cases among
    | some other =>
      dsimp only at among
      split at among
      · rw [List.mem_singleton.mp among]
      · cases among

/-- Whatever else changes, a client is accounted for by its limiters and its clock. -/
theorem Accounted.keep {frames : List ServedFrame} (accounted : client.Accounted frames)
    {next : LimitedClient} (limiters : next.limiters = client.limiters)
    (instant : client.instant ≤ next.instant) : next.Accounted (frames ++ []) := by
  rw [List.append_nil]
  refine ⟨accounted.ordered, fun served among => ?_, fun action => ?_, accounted.answered,
    accounted.asked⟩
  · exact Nat.le_trans (accounted.past served among) instant
  · rw [limiters, accounted.kept]

/-- Every step is accounted for by the frames it takes, and a reconnect keeps the limiters. -/
theorem step_accounted {frames : List ServedFrame} (accounted : client.Accounted frames)
    {action : LimitedStep} {next : LimitedClient}
    (stepped : client.step settings action = some next) :
    next.Accounted (frames ++ client.served settings action) := by
  cases action with
  -- Time goes by for the requests, too.
  | elapse wall monotonic =>
    cases stepped
    exact accounted.keep rfl (Nat.le_add_right _ _)
  | keystroke =>
    obtain ⟨relay, -, rfl⟩ := Option.map_eq_some_iff.mp stepped
    exact accounted.keep rfl (Nat.le_refl _)
  | serverFrame frame connected binds =>
    obtain ⟨relay, there, rfl⟩ := Option.map_eq_some_iff.mp stepped
    rw [served, there]
    exact accounted.serve relay frame connected binds
  | disconnect =>
    obtain ⟨relay, -, rfl⟩ := Option.map_eq_some_iff.mp stepped
    exact accounted.keep rfl (Nat.le_refl _)
  -- The tables are new, and nothing else.
  | reconnect =>
    rw [step] at stepped
    split at stepped
    · cases stepped
      exact accounted.keep rfl (Nat.le_refl _)
    · cases stepped

/-- What was done are some of the requests that were allowed. -/
theorem timesDone_sublist {action : LimitedAction} {frames : List ServedFrame}
    {answers : List (Nat × Bool)}
    (answered : List.Forall₂ (Answered action) (requestsOf action frames) answers)
    (asked : ∀ served ∈ frames, ∀ action ∈ served.spent, served.asked = some action) :
    (timesDone action frames).Sublist (grantedTimes answers) := by
  induction frames generalizing answers with
  | nil => exact List.nil_sublist _
  | cons served later ih =>
    obtain ⟨here, rest⟩ := List.forall_mem_cons.mp asked
    unfold requestsOf at answered ih
    by_cases request : served.asked = some action
    · rw [List.filter_cons, if_pos (decide_eq_true request)] at answered
      -- The first answer is the one to this request.
      obtain ⟨answer, others, first, behind, rfl⟩ := List.forall₂_cons_left_iff.mp answered
      have below := ih behind rest
      unfold timesDone grantedTimes at below ⊢
      rw [List.flatMap_cons, first.spent, List.filter_cons]
      cases allowed : answer.2 with
      | false => exact below
      | true =>
        rw [if_pos rfl, List.map_cons, first.time]
        cases served.frame.fit with
        | true => simpa using below
        | false => exact List.Sublist.cons _ below
    · rw [List.filter_cons, if_neg (by simpa using request)] at answered
      have none : served.spent.filter (· = action) = [] :=
        List.filter_eq_nil_iff.mpr fun other among => by
          have only := here other among
          rw [decide_eq_true_eq]
          rintro rfl
          exact request only
      unfold timesDone at ih ⊢
      rw [List.flatMap_cons, none]
      exact ih answered rest

/-- A client that is accounted for kept to all its budgets. -/
theorem Accounted.withinBudget {frames : List ServedFrame} (accounted : client.Accounted frames)
    (action : LimitedAction) :
    WithinBudget action frames (client.limiters.limiter action) := by
  -- A new limiter is given by its limit and its window.
  have new : SecurityLimiters.new.limiter action =
      .new (SecurityLimiters.new.limiter action).maxCount
        (SecurityLimiters.new.limiter action).window := by
    cases action <;> rfl
  have ordered : ((requestsOf action frames).map (·.time)).Pairwise (· ≤ ·) :=
    accounted.ordered.sublist (List.filter_sublist.map _)
  have limits := RateLimiter.checks_limits (SecurityLimiters.new.limiter action).maxCount
    (SecurityLimiters.new.limiter action).window ordered
  rw [← new] at limits
  have answered := accounted.answered action
  refine ⟨?_, answered, accounted.kept action, ?_⟩
  · exact limits.never.sublist (timesDone_sublist answered accounted.asked)
  · rw [accounted.kept]
    exact limits

/-- Nothing was asked of a client that was just launched. -/
theorem new_accounted (launchedAt : Nat) : (new launchedAt).Accounted [] where
  ordered := .nil
  past _ none := absurd none List.not_mem_nil
  kept action := by cases action <;> rfl
  answered _ := .nil
  asked _ none := absurd none List.not_mem_nil

/-- A limiter that is asked in the order of time keeps to its limit, and a client does to all of its, whatever
the server sends and however often it makes the client reconnect. -/
theorem withinBudgets_run (maxCount window : Nat) {times : List Nat}
    (ordered : times.Pairwise (· ≤ ·)) (settings : ForwardSettings) (launchedAt : Nat)
    {steps : List LimitedStep} {last : LimitedClient}
    (ran : (limitedClient settings launchedAt).run (.new launchedAt) steps = some last) :
    RateLimiter.Limits maxCount window ((RateLimiter.new maxCount window).checks times).2
        ((RateLimiter.new maxCount window).checks times).1 ∧
      ∀ action, WithinBudget action (servedFrames settings launchedAt steps)
        (last.limiters.limiter action) := by
  have accounted : last.Accounted (servedFrames settings launchedAt steps) :=
    Machine.trace_induction Accounted
      (fun _ _ _ _ accounted stepped => step_accounted accounted stepped)
      (new_accounted launchedAt) ran
  exact ⟨RateLimiter.checks_limits maxCount window ordered, accounted.withinBudget⟩

/-- A server that asks for URLs before and after it has dropped the connection, and later for the clipboard. -/
def twoUrls : List LimitedStep :=
  [ .serverFrame (.openUrl "https://a") none false,
    .disconnect,
    .elapse 5 5,
    .reconnect,
    .serverFrame (.openUrl "https://b") none false,
    .serverFrame (.openUrl "https://c") none false,
    .serverFrame (.clipboardSet [1]) none false ]

/-- A client whose user lets the server open URLs, and nothing else. -/
def urlsOnly : ForwardSettings := { forwardOpen := true, oauthRedirect := false, agent := ⟨false, none⟩ }

/-- Two calls at once, one more at the end of their window, and one just after it; and three URLs, of which the
last one is refused although the connection is a new one. -/
theorem withinBudgets_twoUrls :
    RateLimiter.Limits 2 30 ((RateLimiter.new 2 30).checks [5, 5, 35, 36]).2
        ((RateLimiter.new 2 30).checks [5, 5, 35, 36]).1 ∧
      ∃ last, (limitedClient urlsOnly 0).run (.new 0) twoUrls = some last ∧
        ∀ action, WithinBudget action (servedFrames urlsOnly 0 twoUrls)
          (last.limiters.limiter action) := by
  have ran : ((limitedClient urlsOnly 0).run (.new 0) twoUrls).isSome := by decide +kernel
  obtain ⟨last, ran⟩ := Option.isSome_iff_exists.mp ran
  have ordered : [5, 5, 35, 36].Pairwise (· ≤ ·) := by decide
  obtain ⟨limits, within⟩ := withinBudgets_run 2 30 ordered urlsOnly 0 ran
  exact ⟨limits, last, ran, within⟩

/-- What the client did. -/
example : (servedFrames urlsOnly 0 twoUrls).map (·.effects) =
    [[.openUrl "https://a"], [.openUrl "https://b"], [], [.setClipboard [1]]] := by
  decide +kernel

end LimitedClient

end Gritty
