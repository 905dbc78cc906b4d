import RtmpClient.Library.CppString
import RtmpClient.Library.DoWhile
import RtmpClient.Net.RingBuffer
import RtmpClient.Net.WsFrames

namespace RtmpClient
namespace Net

open Library

/-!
# The WebSocket client (`NetCore.cc`, `WebSocketClient::process`)

One call of `onMessage` on a connection whose handshake is done.  `received`
and `sent` record the data of the calls of `onRecvData` and `sendData`.
-/

/-- What one call of `onMessage` finds in the receive buffer. -/
structure Reception where
  bytes : List UInt8
  nonempty : bytes ≠ []
  inside : bytes.length ≤ maxDataLen

structure WebSocketClient where
  /-- `sockCb_` is set. -/
  sockCb : Bool
  cacheMsg : List UInt8
  msgLen : UInt32
  received : List (List UInt8)
  sent : List (List UInt8)
  deriving DecidableEq, Repr

namespace WebSocketClient

/-- The constructor, and the callback that is registered. -/
def new : WebSocketClient where
  sockCb := true
  cacheMsg := []
  msgLen := 0
  received := []
  sent := []

/-- `if (sockCb_) sockCb_->onRecvData(...)`. -/
def onRecvData (client : WebSocketClient) (data : List UInt8) : WebSocketClient :=
  if client.sockCb then { client with received := client.received ++ [data] } else client

def sendData (client : WebSocketClient) (data : List UInt8) : WebSocketClient :=
  { client with sent := client.sent ++ [data] }

end WebSocketClient

/-- The variables of the loop. -/
structure Parse where
  client : WebSocketClient
  index : Int
  deriving DecidableEq, Repr

namespace Parse

/-- `while (index < size)`. -/
def test (data : List UInt8) (after : Parse) : Round Parse := Round.test (after.index < data.length) after

/-- The round while a message is incomplete.  The inner loop stops at the end
of the message and at that of the data. -/
def cachedRound (data : List UInt8) (parse : Parse) : Outcome (Round Parse) := do
  let client := parse.client
  let currLen := asInt client.cacheMsg.length
  let i := min (asUint32 (client.msgLen.toNat - currLen)) data.length
  let cacheMsg := client.cacheMsg ++ data.take i
  let client :=
    if cacheMsg.length = client.msgLen.toNat then { client.onRecvData cacheMsg with cacheMsg := [], msgLen := 0 }
    else { client with cacheMsg }
  let index ← checkedInt (parse.index + i)
  return test data { client, index }

/-- What `process` does with a frame it has decoded. -/
def handle (data : List UInt8) (client : WebSocketClient) (decoded : DecodedData) (index : Int) :
    Outcome (Round Parse) :=
  if decoded.ret = 0 then
    if decoded.opcode = .closeFrame then do
      let (dest, _) ← encodeData (ascii "EOF") .closeFrame decoded.dest
      return .leave { client := client.sendData dest, index }
    else .ok (test data { client, index })
  else if decoded.dest.length < asSize decoded.ret then
    .ok (test data
      { client :=
          { client with cacheMsg := client.cacheMsg ++ decoded.dest, msgLen := UInt32.ofNat (asUint32 decoded.ret) }
        index })
  else .ok (test data { client := client.onRecvData (decoded.dest.take decoded.ret.toNat), index })

/-- The round at the start of a frame. -/
def freshRound (data : List UInt8) (parse : Parse) : Outcome (Round Parse) :=
  if parse.index < 0 then .fault
  else do
    let decoded ← decodeData (data.drop parse.index.toNat) (asInt (data.length - parse.index)) []
    let step ← checkedInt (decoded.ret + decoded.hlen)
    let index ← checkedInt (parse.index + step)
    handle data parse.client decoded index

/-- A round of `process`. -/
def round (data : List UInt8) (parse : Parse) : Outcome (Round Parse) :=
  if 0 < parse.client.cacheMsg.length then cachedRound data parse else freshRound data parse

end Parse

/-- `process` of these bytes returns, and leaves the client like this. -/
def WebSocketClient.Processes (client : WebSocketClient) (data : Reception) (after : WebSocketClient) : Prop :=
  Exists fun index => Leaves (Parse.round data.bytes) { client, index := 0 } { client := after, index }

/-! ## What a round comes to -/

namespace Parse

variable {data : List UInt8} {client : WebSocketClient}

theorem test_leave {after : Parse} (done : (data.length : Int) ≤ after.index) : test data after = .leave after := by
  rw [test, Round.test, decide_eq_false (by omega)]
  rfl

theorem test_again {after : Parse} (inside : after.index < data.length) : test data after = .again after := by
  rw [test, Round.test, decide_eq_true inside]
  rfl

/-- What `decodeData` finds at a place of the data: everything behind the
header counts as data of the frame. -/
def frameAt (data : List UInt8) (start : Nat) (header : WsHeader) (hlen : Nat) : DecodedData where
  ret := header.announced
  dest := header.payload (data.drop (start + hlen))
  finish := header.eof
  opcode := header.opcode
  hlen := hlen

section Fresh

variable {header : WsHeader} {start hlen : Nat} (inside : start ≤ data.length) (small : data.length ≤ maxDataLen)
  (found : WsHeader.new.decode (data.drop start) = .ok (header, hlen))

include inside small found

theorem decodeData_at :
    decodeData (data.drop start) (asInt (data.length - start)) [] = .ok (frameAt data start header hlen) := by
  have bound : data.length ≤ 65535 := small
  have length : asInt (data.length - start) = (data.drop start).length := by
    rw [asInt_of_fits ⟨by omega, by omega⟩, List.length_drop]
    omega
  have short : (data.drop start).length < 2 ^ 31 := by
    rw [List.length_drop]
    omega
  rw [length, decodeData_eq found short, List.nil_append, List.drop_drop, frameAt]

/-- A frame whose length leads to a place that has a number. -/
theorem freshRound_handle (step : FitsInt (header.announced + hlen))
    (place : FitsInt (start + (header.announced + hlen))) :
    freshRound data { client, index := start } =
      handle data client (frameAt data start header hlen) (start + (header.announced + hlen)) := by
  have nonneg : ¬ (start : Int) < 0 := by omega
  rw [freshRound, if_neg nonneg]
  dsimp only
  rw [Int.toNat_natCast, decodeData_at inside small found, Outcome.ok_bind_do, frameAt]
  dsimp only
  rw [checkedInt_of_fits step, Outcome.ok_bind_do, checkedInt_of_fits place, Outcome.ok_bind_do]

end Fresh

/-- Rounds of a frame with no data, one that is cached, and one that is
delivered. -/
theorem handle_empty {decoded : DecodedData} {index : Int} (empty : decoded.ret = 0)
    (goesOn : decoded.opcode ≠ .closeFrame) : handle data client decoded index = .ok (test data { client, index }) := by
  rw [handle, if_pos empty, if_neg goesOn]

theorem handle_close {decoded : DecodedData} {index : Int} (empty : decoded.ret = 0)
    (closes : decoded.opcode = .closeFrame) : Exists fun reply =>
      handle data client decoded index = .ok (.leave { client := client.sendData reply, index }) := by
  have bare : ¬ WsOpCode.closeFrame.CarriesData := by decide
  have reply : encodeData (ascii "EOF") .closeFrame decoded.dest = _ := (closeReply decoded.dest).encodeData_bare bare
  rw [handle, if_pos empty, if_pos closes, reply]
  exact ⟨_, rfl⟩

theorem handle_cached {decoded : DecodedData} {index : Int} (carries : decoded.ret ≠ 0)
    (short : decoded.dest.length < asSize decoded.ret) :
    handle data client decoded index = .ok (test data
      { client :=
          { client with cacheMsg := client.cacheMsg ++ decoded.dest, msgLen := UInt32.ofNat (asUint32 decoded.ret) }
        index }) := by
  rw [handle, if_neg carries, if_pos short]

theorem handle_delivered {decoded : DecodedData} {index : Int} (carries : decoded.ret ≠ 0)
    (whole : ¬ decoded.dest.length < asSize decoded.ret) :
    handle data client decoded index =
      .ok (test data { client := client.onRecvData (decoded.dest.take decoded.ret.toNat), index }) := by
  rw [handle, if_neg carries, if_neg whole]

end Parse

end Net
end RtmpClient
