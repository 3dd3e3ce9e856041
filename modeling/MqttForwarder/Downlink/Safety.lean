import MqttForwarder.Downlink.Handling

/-!
# Safety of the downlink cache and of TX_ACK handling

What holds in every pool that commands and datagrams can reach, in any
interleaving: the cache invariant, the shape of every published ack, and when
the handling of a TX_ACK panics.
-/

namespace MqttForwarder.SemtechUdp

open MqttForwarder.Rust

section

variable (E : Env → Prop) (A : Option SocketAddr → Prop) (crates : Crates) (profile : Profile)
  (F : Gw.DownlinkFrame → Prop)

/-- How a thread ends its request, as far as downlinks are concerned. -/
def Ends (_ : Thread) : Request → List Effect → Outcome Unit → Prop
  | .command pl, os, result =>
      Tried E A profile pl (pl.items.map fun _ => .ofStatus .ignored) 0 os result
  | .datagram data _, os, result =>
      data[3]? = some 0x05 → Handled E A crates profile F data os result

end

section

variable {E : Env → Prop} {A : Option SocketAddr → Prop} {crates : Crates} {profile : Profile}
  {conf : Conf} {F : Gw.DownlinkFrame → Prop} {pool : System}

/-- Every request is served by a program that keeps the invariant of the backend. -/
theorem program_upholds (kept : ∀ a b : Option SocketAddr, A a → (a ≠ none → b ≠ none) → A b)
    (i : Thread) (r : Request) (admitted : admits F i r) :
    (program crates profile conf i r).Upholds E (Holds F A) AddrKept
      (Ends E A crates profile F i r) [] := by
  cases i with
  | command n =>
      cases r with
      | command pl => exact backend_sendDownlinkFrame_upholds admitted
      | datagram data remote => exact absurd admitted id
  | udp =>
      cases r with
      | command pl => exact absurd admitted id
      | datagram data remote =>
          rcases receive_cases crates profile conf data remote with ⟨_, same⟩ | ⟨other, aside⟩
          · simp only [program, same]
            exact (handleTxAck_upholds data).mono fun os result handled _ => handled
          · have upholds : (receive crates profile conf data remote).Upholds E (Holds F A)
                AddrKept (fun _ _ => True) [] :=
              aside.upholds (fun e s s' os log _ action holds => ⟨holds.frame action.cache
                (kept _ _ holds.addr action.known)
                (fun ack published => action.effects _ published), action.known⟩) []
            exact upholds.mono fun os result _ txAck => absurd txAck other

/-- Every reachable pool satisfies the invariant of the backend. -/
theorem reachable_sound (reachable : Reachable crates profile conf F pool) :
    Pool.Sound (fun _ => True) (Holds F fun _ => True) (fun _ => AddrKept)
      (Ends (fun _ => True) (fun _ => True) crates profile F) pool :=
  (Pool.sound_idle (Holds.init trivial)).run (program_upholds fun _ _ _ _ => trivial) reachable

/-! ## The cache and the published acks -/

/-- In every reachable pool each cache entry belongs to its token and to a commanded frame,
its ack items before the index are refusals and the others are untouched; and each published
ack answers a commanded frame item by item, in the shape of an ack. -/
theorem downlinkCache_invariant (reachable : Reachable crates profile conf F pool) :
    (∀ token dc, pool.state.downlinkCache token = some dc → dc.Good F token) ∧
      ∀ ack, .event (.ack ack) ∈ pool.log → Honest F ack :=
  ⟨(reachable_sound reachable).holds.cache, (reachable_sound reachable).holds.acks⟩

/-! ## Panics of TX_ACK handling -/

theorem Tried.panic_cause {pl : Gw.DownlinkFrame} {acks : List Gw.DownlinkTxAckItem} {i : Nat}
    {os : List Effect} {cause : Panic} (tried : Tried E A profile pl acks i os (.panic cause)) :
    profile = .debug ∧ cause = .addOverflow := by
  cases tried with
  | panicked panicked => exact PullResp.fromProto_eq_panic panicked

theorem Tried.not_looked {pl : Gw.DownlinkFrame} {acks : List Gw.DownlinkTxAckItem} {i : Nat}
    {os : List Effect} {result : Outcome Unit} (tried : Tried E A profile pl acks i os result)
    (token : UInt16) (found : Option DownlinkCache) : .looked token found ∉ os := by
  cases tried <;> simp

theorem Acknowledged.not_looked {pl : TxAck} {dc : DownlinkCache} {os : List Effect}
    {result : Outcome Unit} (acknowledged : Acknowledged E A crates profile pl dc os result)
    (token : UInt16) (found : Option DownlinkCache) : .looked token found ∉ os := by
  cases acknowledged with
  | empty empty => simp
  | uncounted nonempty final fails => simp
  | unpublished nonempty allowed blocked => simp
  | published nonempty final counts => simp
  | retried nonempty more tried => exact tried.not_looked token found

/-- No operation of the handler has panicked.  In a debug build the conversion of the next
item may still panic, where it checks the sum of a timestamp and a delay. -/
def Steady (profile : Profile) (result : Outcome Unit) : Prop :=
  ∀ cause, result = .panic cause → profile = .debug ∧ cause = .addOverflow

/-- A handler ends without a panic of its own exactly when the entry it found, if any, is that
of a frame with items. -/
theorem Handled.steady_iff {data : List UInt8} {os : List Effect} {result : Outcome Unit}
    (handled : Handled E A crates profile F data os result) :
    Steady profile result ↔
      ∀ token dc, .looked token (some dc) ∈ os → dc.frame.items ≠ [] := by
  cases handled with
  | unreadable unreadable => simp [Steady]
  | unknown read => simp [Steady]
  | @found pl dc rest _ read good acknowledged =>
      constructor
      · intro steady token entry looked empty
        have same : entry = dc := by
          rcases List.mem_cons.mp looked with now | later
          · simp only [Effect.looked.injEq, Option.some.injEq] at now
            exact now.2
          · exact absurd later (acknowledged.not_looked token _)
        subst same
        cases acknowledged with
        | empty _ => exact absurd (steady _ rfl).2 (by decide)
        | uncounted nonempty final fails => exact nonempty empty
        | unpublished nonempty allowed blocked => exact nonempty empty
        | published nonempty final counts => exact nonempty empty
        | retried nonempty more tried => exact nonempty empty
      · rintro nonempty cause rfl
        cases acknowledged with
        | empty empty => exact absurd empty (nonempty _ _ List.mem_cons_self)
        | retried _ more tried => exact tried.panic_cause

/-- In every run, the handling of a TX_ACK ends without a panic of its own exactly when the
live entry under its token, if there is one, is that of a frame with items. -/
theorem handleTxAck_steady_iff (reachable : Reachable crates profile conf F pool)
    {data : List UInt8} {remote : SocketAddr} {result : Outcome Unit}
    (job : pool.job .udp = some (.datagram data remote)) (txAck : data[3]? = some 0x05)
    (ended : pool.threads .udp = .done result) :
    Steady profile result ↔
      ∀ token dc, .looked token (some dc) ∈ pool.trail .udp → dc.frame.items ≠ [] := by
  have upholds := (reachable_sound reachable).threads .udp _ job
  rw [ended] at upholds
  exact (upholds txAck).steady_iff

end

/-! ## A frame without items -/

/-- A TX_ACK without payload for token 1. -/
def txAckDatagram : List UInt8 := [0x02, 1, 0, 0x05, 0, 0, 0, 0, 0, 0, 0, 0]

def forwarderAddr : SocketAddr := ⟨[127, 0, 0, 1], 1700⟩

/-- The pool after a command for a frame with these items and then a TX_ACK for its token, as
far as the handlers get before they send anything. -/
def commandThenTxAck (items : List Gw.DownlinkFrameItem) : System :=
  let commanded := serve Crates.plain .release {} (Pool.idle (State.init {})) (.command 0)
    (.command ⟨1, items, ""⟩) 2
  serve Crates.plain .release {} commanded .udp (.datagram txAckDatagram forwarderAddr) 2

theorem commandThenTxAck_reachable (items : List Gw.DownlinkFrameItem) :
    Reachable Crates.plain .release {} (fun _ => True) (commandThenTxAck items) := by
  have commanded := run_serve trivial (Reachable.init : Reachable Crates.plain .release {}
    (fun _ => True) _) (.command 0) (.command ⟨1, items, ""⟩) 2 trivial trivial
  exact run_serve trivial commanded .udp (.datagram txAckDatagram forwarderAddr) 2 trivial trivial

/-- A frame without items is cached before it is refused, so a TX_ACK for it finds an entry
without ack items: its handler can panic. -/
theorem handleTxAck_panics_without_items :
    ¬ ∀ (crates : Crates) (profile : Profile) (conf : Conf) (pool : System) (data : List UInt8)
        (remote : SocketAddr), Reachable crates profile conf (fun _ => True) pool →
      pool.job .udp = some (.datagram data remote) → data[3]? = some 0x05 →
      pool.threads .udp ≠ .done (.panic .indexOutOfBounds) ∧
        pool.threads .udp ≠ .done (.panic .subOverflow) := by
  intro calm
  have reachable := commandThenTxAck_reachable []
  exact (calm _ _ _ _ txAckDatagram forwarderAddr reachable rfl rfl).1 rfl

/-- The handler of that TX_ACK, after the same command, ends without a panic exactly when
the frame of the entry has items; here it has none. -/
theorem handleTxAck_steady_iff_without_items :
    Steady .release (.panic .indexOutOfBounds) ↔
      ∀ token dc, .looked token (some dc) ∈ (commandThenTxAck []).trail .udp →
        dc.frame.items ≠ [] := by
  have job : (commandThenTxAck []).job .udp = some (.datagram txAckDatagram forwarderAddr) := rfl
  exact handleTxAck_steady_iff (commandThenTxAck_reachable []) job rfl rfl

/-! ## A frame with two items -/

/-- Crates that read one refusal and write one PULL_RESP. -/
def tooLateCrates : Crates :=
  { Crates.plain with
    readJson := fun _ =>
      ⟨.object [("txpk_ack", .object [("error", .string "TOO_LATE" false)])], false⟩
    writeJson := fun _ => ascii <|
      "\x7b\"txpk\":\x7b\"imme\":true,\"rfch\":0,\"powe\":14,\"ant\":0,\"brd\":0," ++
      "\"freq\":868.1,\"modu\":\"LORA\",\"datr\":\"SF7BW125\",\"codr\":\"4/5\"," ++
      "\"ipol\":false,\"size\":1,\"data\":\"AQ==\"\x7d\x7d"
    base64Encode := fun _ => "AQ==" }

/-- An item that is sent immediately, on 868.1 MHz with SF7 and 125 kHz. -/
def loraItem : Gw.DownlinkFrameItem where
  phyPayload := [1]
  txInfo := some {
    frequency := 868100000
    power := 14
    modulation := some ⟨some (.lora { bandwidth := 125000, spreadingFactor := 7, codeRate := 1 })⟩
    board := 0
    antenna := 0
    timing := some ⟨some .immediately⟩
    context := [] }

def twoItems : Gw.DownlinkFrame := ⟨1, [loraItem, loraItem], ""⟩

def pullDataDatagram : List UInt8 := [0x02, 0, 0, 0x02, 0, 0, 0, 0, 0, 0, 0, 0]

/-- A TX_ACK for token 1 that reports `TOO_LATE`. -/
def tooLateDatagram : List UInt8 :=
  txAckDatagram ++ ascii "\x7b\"txpk_ack\":\x7b\"error\":\"TOO_LATE\"\x7d\x7d"

/-- The pool in which the first item of the frame has been refused, and the second sent and
acknowledged. -/
def refusedThenSent : System :=
  let known := serve tooLateCrates .release {} (Pool.idle (State.init {})) .udp
    (.datagram pullDataDatagram forwarderAddr) 3
  let sent := serve tooLateCrates .release {} known (.command 0) (.command twoItems) 4
  let refused := serve tooLateCrates .release {} sent .udp
    (.datagram tooLateDatagram forwarderAddr) 6
  serve tooLateCrates .release {} refused .udp (.datagram txAckDatagram forwarderAddr) 4

theorem refusedThenSent_reachable :
    Reachable tooLateCrates .release {} (fun f => f = twoItems) refusedThenSent := by
  have known := run_serve trivial (Reachable.init : Reachable tooLateCrates .release {}
    (fun f => f = twoItems) _) .udp (.datagram pullDataDatagram forwarderAddr) 3 trivial trivial
  have sent := run_serve trivial known (.command 0) (.command twoItems) 4 trivial rfl
  have refused := run_serve trivial sent .udp (.datagram tooLateDatagram forwarderAddr) 6 trivial
    trivial
  exact run_serve trivial refused .udp (.datagram txAckDatagram forwarderAddr) 4 trivial trivial

def refusedThenSentAck : Gw.DownlinkTxAck :=
  ⟨"0000000000000000", 1, [.ofStatus .tooLate, .ofStatus .ok]⟩

/-- The entry that the refusal has left is good, and the ack that follows is honest. -/
theorem downlinkCache_invariant_two_items :
    DownlinkCache.Good (fun f => f = twoItems) 1
        ⟨lifetime, twoItems, [.ofStatus .tooLate, .ofStatus .ignored], 1⟩ ∧
      Honest (fun f => f = twoItems) refusedThenSentAck := by
  obtain ⟨good, honest⟩ := downlinkCache_invariant refusedThenSent_reachable
  have cached : refusedThenSent.state.downlinkCache 1 =
      some ⟨lifetime, twoItems, [.ofStatus .tooLate, .ofStatus .ignored], 1⟩ := by decide
  have published : .event (.ack refusedThenSentAck) ∈ refusedThenSent.log := by decide
  exact ⟨good 1 _ cached, honest _ published⟩

end MqttForwarder.SemtechUdp
