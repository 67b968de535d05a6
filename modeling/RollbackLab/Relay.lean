import RollbackLab.Numeral
import RollbackLab.PeerPhases

/-!
# The relay

A process between the two peers of a match. It hands every datagram that comes from the
port of one of them on to the port of the other, ignores what comes from anywhere else, and
ends when it is told to, when its time is over or when its socket fails.
-/

namespace RollbackLab

structure RelayConfig where
  relayPort : UInt16 := 0
  peerAPort : UInt16 := 0
  peerBPort : UInt16 := 0
  deriving DecidableEq, Repr

namespace Relay

open Numeral (text decimal)

def stopMessage : List UInt8 := text "RLSTOP"

def isStop (bytes : List UInt8) : Bool := bytes == stopMessage

/-- The port that a datagram is handed on to, by the port that it came from. -/
def destination (config : RelayConfig) (source : UInt16) : Option UInt16 :=
  if source = config.peerAPort then some config.peerBPort
  else if source = config.peerBPort then some config.peerAPort
  else none

/-- One round of the loop, which tells whether the relay has been stopped. -/
def turn (config : RelayConfig) (socket : UdpSocket) : Result Bool × UdpSocket :=
  match socket.receive with
  | (.error error, socket) => (.error error, socket)
  | (.ok none, socket) => (.ok false, socket)
  | (.ok (some datagram), socket) =>
    if isStop datagram.bytes then (.ok true, socket)
    else
      match destination config datagram.sourcePort with
      | none => (.ok false, socket)
      | some port =>
        match socket.sendLoopback port datagram.bytes with
        | (.error error, socket) => (.error error, socket)
        | (.ok _, socket) => (.ok false, socket)

/-- The loop, for as many rounds as its time allows. -/
def forwardFor (config : RelayConfig) (socket : UdpSocket) : (rounds : ℕ) → Result ℤ × UdpSocket
  | 0 => (.ok 0, socket)
  | rounds + 1 =>
    match turn config socket with
    | (.error error, socket) => (.error error, socket)
    | (.ok true, socket) => (.ok 0, socket)
    | (.ok false, socket) => forwardFor config socket rounds

/-- What a relay leaves behind: its result, the file that says that it is ready, and its socket. -/
structure Run where
  result : Result ℤ
  ready : Option (List UInt8)
  socket : UdpSocket

/-- `bound` is the port that the operating system binds the socket to, `opened` whether the
file could be opened. -/
def runRelay (config : RelayConfig) (bound : Result UInt16) (opened : Bool) (rounds : ℕ)
    (socket : UdpSocket) : Run :=
  match bound with
  | .error error => ⟨.error error, none, socket⟩
  | .ok port =>
    if !opened then ⟨.error ⟨.ioError, 0, 0, "relay_ready_file"⟩, none, socket⟩
    else
      let (result, socket) := forwardFor config socket rounds
      ⟨result, some (decimal port.toNat ++ text "\n"), socket⟩

/-! ## What it hands on -/

/-- The datagrams among the answers of a socket. -/
def heard (answers : List (Result (Option Datagram))) : List Datagram :=
  answers.filterMap fun answer => answer.toOption.join

/-- What is sent for the datagrams of the two peers. -/
def relayed (config : RelayConfig) (datagrams : List Datagram) : List Datagram :=
  datagrams.filterMap fun datagram =>
    (destination config datagram.sourcePort).map fun port => ⟨datagram.bytes, port⟩

/-- The datagrams before the first that stops the relay. -/
def untilStop (datagrams : List Datagram) : List Datagram :=
  datagrams.takeWhile fun datagram => !isStop datagram.bytes

theorem sendLoopback_sent (socket : UdpSocket) (port : UInt16) (bytes : List UInt8) :
    Outcome (fun _ after => after.sent = socket.sent ++ [⟨bytes, port⟩])
      (fun _ after => after.sent = socket.sent) (socket.sendLoopback port bytes) := by
  rw [UdpSocket.sendLoopback]
  split
  · exact rfl
  · cases socket.sendResults.headD (.ok ()) with
    | error e => exact rfl
    | ok _ => exact rfl

/-- What a round of the loop can do. -/
inductive Turns (config : RelayConfig) (socket : UdpSocket) : Result Bool × UdpSocket → Prop
  | failed {e : Error} (h : socket.receive.1 = .error e) :
      Turns config socket (.error e, socket.receive.2)
  | silent (h : socket.receive.1 = .ok none) : Turns config socket (.ok false, socket.receive.2)
  | stopped {datagram : Datagram} (h : socket.receive.1 = .ok (some datagram))
      (hstop : isStop datagram.bytes = true) : Turns config socket (.ok true, socket.receive.2)
  | foreign {datagram : Datagram} (h : socket.receive.1 = .ok (some datagram))
      (hstop : isStop datagram.bytes = false)
      (hport : destination config datagram.sourcePort = none) :
      Turns config socket (.ok false, socket.receive.2)
  | refused {datagram : Datagram} {port : UInt16} {e : Error} {after : UdpSocket}
      (h : socket.receive.1 = .ok (some datagram)) (hstop : isStop datagram.bytes = false)
      (hport : destination config datagram.sourcePort = some port)
      (hsend : socket.receive.2.sendLoopback port datagram.bytes = (.error e, after)) :
      Turns config socket (.error e, after)
  | forwarded {datagram : Datagram} {port : UInt16} {after : UdpSocket}
      (h : socket.receive.1 = .ok (some datagram)) (hstop : isStop datagram.bytes = false)
      (hport : destination config datagram.sourcePort = some port)
      (hsend : socket.receive.2.sendLoopback port datagram.bytes = (.ok (), after)) :
      Turns config socket (.ok false, after)

theorem turn_turns (config : RelayConfig) (socket : UdpSocket) :
    Turns config socket (turn config socket) := by
  rw [turn]
  rcases hanswer : socket.receive with ⟨answer, rest⟩
  obtain rfl : rest = socket.receive.2 := by rw [hanswer]
  have hfirst : socket.receive.1 = answer := by rw [hanswer]
  rcases answer with e | _ | datagram
  · exact .failed hfirst
  · exact .silent hfirst
  dsimp only
  split
  next hstop => exact .stopped hfirst hstop
  next hstop =>
    have hstop : isStop datagram.bytes = false := by simpa using hstop
    cases hport : destination config datagram.sourcePort with
    | none => exact .foreign hfirst hstop hport
    | some port =>
      dsimp only
      rcases hsend : socket.receive.2.sendLoopback port datagram.bytes with ⟨e | _, after⟩
      · exact .refused hfirst hstop hport hsend
      · exact .forwarded hfirst hstop hport hsend

theorem heard_take_succ (socket : UdpSocket) (rounds : ℕ) :
    heard (socket.receiveResults.take (rounds + 1)) =
      heard [socket.receive.1] ++ heard (socket.receive.2.receiveResults.take rounds) := by
  rw [UdpSocket.receive]
  cases socket.receiveResults with
  | nil => simp [heard, Except.toOption]
  | cons answer answers =>
    rw [heard, heard, heard, ← List.filterMap_append]
    rfl

theorem heard_take_datagram {socket : UdpSocket} {datagram : Datagram}
    (h : socket.receive.1 = .ok (some datagram)) (rounds : ℕ) :
    heard (socket.receiveResults.take (rounds + 1)) =
      datagram :: heard (socket.receive.2.receiveResults.take rounds) := by
  rw [heard_take_succ, h]
  rfl

theorem untilStop_cons {datagram : Datagram} (h : isStop datagram.bytes = false)
    (datagrams : List Datagram) :
    untilStop (datagram :: datagrams) = datagram :: untilStop datagrams :=
  List.takeWhile_cons_of_pos (by simpa using h)

theorem relayed_cons (config : RelayConfig) (datagram : Datagram) (datagrams : List Datagram) :
    relayed config (datagram :: datagrams) =
      ((destination config datagram.sourcePort).map fun port => ⟨datagram.bytes, port⟩).toList ++
        relayed config datagrams := by
  rw [relayed, List.filterMap_cons]
  cases destination config datagram.sourcePort with
  | none => rfl
  | some port => rfl

/-- The relay hands on what it hears before it is stopped, in order and each datagram once, and
all of it if it ends well. -/
theorem forwardFor_outcome (config : RelayConfig) (socket : UdpSocket) (rounds : ℕ) :
    ∃ taken, taken <+: untilStop (heard (socket.receiveResults.take rounds)) ∧
      (forwardFor config socket rounds).2.sent = socket.sent ++ relayed config taken ∧
      ∀ code, (forwardFor config socket rounds).1 = .ok code →
        code = 0 ∧ taken = untilStop (heard (socket.receiveResults.take rounds)) := by
  induction rounds generalizing socket with
  | zero => exact ⟨[], List.nil_prefix, (List.append_nil _).symm, fun code hcode =>
      ⟨(Except.ok.inj hcode).symm, rfl⟩⟩
  | succ rounds ih =>
    have hturn := turn_turns config socket
    rw [forwardFor]
    generalize turn config socket = answer at hturn ⊢
    cases hturn with
    | failed h => exact ⟨[], List.nil_prefix, (List.append_nil _).symm, nofun⟩
    | silent h =>
      rw [heard_take_succ, h]
      exact ih socket.receive.2
    | stopped h hstop =>
      rw [heard_take_datagram h, untilStop, List.takeWhile_cons_of_neg (by simpa using hstop)]
      exact ⟨[], List.nil_prefix, (List.append_nil _).symm, fun code hcode =>
        ⟨(Except.ok.inj hcode).symm, rfl⟩⟩
    | @foreign datagram h hstop hport =>
      obtain ⟨taken, hprefix, hsent, hcode⟩ := ih socket.receive.2
      rw [heard_take_datagram h, untilStop_cons hstop]
      refine ⟨datagram :: taken, List.cons_prefix_cons.2 ⟨rfl, hprefix⟩, ?_, fun code hok => ?_⟩
      · rw [relayed_cons, hport]
        exact hsent
      · obtain ⟨hzero, hall⟩ := hcode code hok
        exact ⟨hzero, congrArg _ hall⟩
    | refused h hstop hport hsend =>
      have hkept := (sendLoopback_sent _ _ _).of_error hsend
      refine ⟨[], List.nil_prefix, ?_, nofun⟩
      exact hkept.trans (List.append_nil _).symm
    | @forwarded datagram port after h hstop hport hsend =>
      have hadded := (sendLoopback_sent _ _ _).of_ok hsend
      have hkept := UdpSocket.sendLoopback_receiveResults socket.receive.2 port datagram.bytes
      rw [hsend] at hkept
      obtain ⟨taken, hprefix, hsent, hcode⟩ := ih after
      rw [hkept] at hprefix hcode
      rw [heard_take_datagram h, untilStop_cons hstop]
      refine ⟨datagram :: taken, List.cons_prefix_cons.2 ⟨rfl, hprefix⟩, ?_, fun code hok => ?_⟩
      · rw [relayed_cons, hport]
        rw [hadded, List.append_assoc] at hsent
        exact hsent
      · obtain ⟨hzero, hall⟩ := hcode code hok
        exact ⟨hzero, congrArg _ hall⟩

end Relay

end RollbackLab
