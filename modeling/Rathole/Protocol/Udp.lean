import Rathole.Client.Udp
import Rathole.Lib.Framing
import Rathole.Protocol.Wire

/-!
# UDP Traffic on the Wire

A datagram on a data channel is one byte with the length of its header, the
header, and the payload. The header is the visitor's address and the length of
the payload, as `bincode` lays them out: the address is the tag of its family,
its octets and its port, numbers lowest byte first. An IPv6 address is written
without its flow info and scope id, and read back with zeros there, so what
comes out of the tunnel is the address without them (`SocketAddr.compact`).
The length field has 16 bits, and a longer payload is cut short by the reader.

## Main definitions

* `SocketAddr`: An address of either family.
* `SocketAddr.compact`: The address as far as the wire carries it.
* `SocketAddr.Plain`: An address the wire carries whole.
* `UdpHeader`: The address and the length of the payload.
* `UdpTraffic.write`, `UdpTraffic.writeSlice`: What a write puts on the wire.
* `UdpTraffic.read`: Reading the rest after the first byte.
* `udpCodec`: Datagrams as frames on a stream.

## Theorems

* `SocketAddr.deserialize_serialize`: An address is read back compacted.
* `UdpHeader.deserialize_serialize`: So is a header.
* `UdpHeader.length_serialize_le`: The length of a header fits into one byte.
* `UdpTraffic.readFrame_append`: Reading does not depend on what comes later.
* `UdpTraffic.readFrame_write`: A datagram is read back compacted.
* `UdpTraffic.write_compact`: The wire does not see what compacting drops.
-/

namespace Rathole

open ByteStream

/-- `SocketAddr` -/
inductive SocketAddr
  | v4 (ip : List.Vector UInt8 4) (port : UInt16)
  | v6 (ip : List.Vector UInt8 16) (port : UInt16) (flowinfo scopeId : UInt32)
deriving DecidableEq

/-- The address as far as the wire carries it. -/
def SocketAddr.compact : SocketAddr → SocketAddr
  | .v4 ip port => .v4 ip port
  | .v6 ip port _ _ => .v6 ip port 0 0

/-- IPv4, or IPv6 without flow info and scope id. -/
def SocketAddr.Plain : SocketAddr → Prop
  | .v4 _ _ => True
  | .v6 _ _ flowinfo scopeId => flowinfo = 0 ∧ scopeId = 0

instance (addr : SocketAddr) : Decidable addr.Plain := by
  cases addr with
  | v4 ip port => exact isTrue trivial
  | v6 ip port flowinfo scopeId => exact inferInstanceAs (Decidable (flowinfo = 0 ∧ scopeId = 0))

/-- The header of a datagram. -/
structure UdpHeader where
  source : SocketAddr
  len : UInt16
deriving DecidableEq

/-! ### Layout -/

/-- A 16-bit number, lowest byte first. -/
def u16 (n : UInt16) : List UInt8 := [UInt8.ofNat n.toNat, UInt8.ofNat (n.toNat / 2 ^ 8)]

/-- Take a 16-bit number off a message. -/
def readU16 : List UInt8 → Option (UInt16 × List UInt8)
  | b0 :: b1 :: rest => some (UInt16.ofNat (b0.toNat + b1.toNat * 2 ^ 8), rest)
  | _ => none

/-- Take the octets of an address off a message. -/
def readOctets (n : Nat) (bs : List UInt8) : Option (List.Vector UInt8 n × List UInt8) :=
  if h : n ≤ bs.length then
    some (⟨bs.take n, by rw [List.length_take]; omega⟩, bs.drop n)
  else none

/-- The fields of an address that are on the wire. -/
def SocketAddr.serialize : SocketAddr → List UInt8
  | .v4 ip port => plainBytes.u32 0 ++ (ip.toList ++ u16 port)
  | .v6 ip port _ _ => plainBytes.u32 1 ++ (ip.toList ++ u16 port)

/-- An address from the wire, and what follows it. -/
def SocketAddr.deserialize (bs : List UInt8) : Option (SocketAddr × List UInt8) :=
  match plainBytes.readTag bs with
  | some (0, rest) => (readOctets 4 rest).bind (fun ip =>
      (readU16 ip.2).map (fun port => (.v4 ip.1 port.1, port.2)))
  -- The fields that are not on the wire are zero.
  | some (1, rest) => (readOctets 16 rest).bind (fun ip =>
      (readU16 ip.2).map (fun port => (.v6 ip.1 port.1 0 0, port.2)))
  | _ => none

/-- A header on the wire. -/
def UdpHeader.serialize (hdr : UdpHeader) : List UInt8 := hdr.source.serialize ++ u16 hdr.len

/-- Bytes after the header are ignored. -/
def UdpHeader.deserialize (bs : List UInt8) : Option UdpHeader :=
  (SocketAddr.deserialize bs).bind (fun addr =>
    (readU16 addr.2).map (fun len => { source := addr.1, len := len.1 }))

theorem readU16_u16 (n : UInt16) (rest : List UInt8) :
    readU16 (u16 n ++ rest) = some (n, rest) := by
  have hlt : n.toNat < 2 ^ 16 := n.toNat_lt
  have hval : UInt16.ofNat ((UInt8.ofNat n.toNat).toNat +
      (UInt8.ofNat (n.toNat / 2 ^ 8)).toNat * 2 ^ 8) = n := by
    -- Both bytes are below 256, so the sum has the number back.
    apply UInt16.toNat_inj.mp
    rw [UInt16.toNat_ofNat', UInt8.toNat_ofNat', UInt8.toNat_ofNat']
    omega
  simp only [u16, List.cons_append, List.nil_append, readU16]
  rw [hval]

theorem readOctets_toList {n : Nat} (ip : List.Vector UInt8 n) (rest : List UInt8) :
    readOctets n (ip.toList ++ rest) = some (ip, rest) := by
  have hlen : ip.toList.length = n := ip.toList_length
  have hle : n ≤ (ip.toList ++ rest).length := by
    rw [List.length_append]
    omega
  unfold readOctets
  rw [dif_pos hle]
  refine congrArg some (Prod.ext ?_ (List.drop_left' hlen))
  apply List.Vector.eq
  exact List.take_left' hlen

/-- An address is read back without its flow info and scope id. -/
theorem SocketAddr.deserialize_serialize (addr : SocketAddr) (rest : List UInt8) :
    SocketAddr.deserialize (addr.serialize ++ rest) = some (addr.compact, rest) := by
  cases addr with
  | v4 ip port =>
      simp only [serialize, List.append_assoc, deserialize]
      rw [readTag_u32 plainBytes (by omega)]
      simp only [readOctets_toList, Option.bind_some, readU16_u16, Option.map_some, compact]
  | v6 ip port flowinfo scopeId =>
      simp only [serialize, List.append_assoc, deserialize]
      rw [readTag_u32 plainBytes (by omega)]
      simp only [readOctets_toList, Option.bind_some, readU16_u16, Option.map_some, compact]

theorem SocketAddr.serialize_compact (addr : SocketAddr) :
    addr.compact.serialize = addr.serialize := by
  cases addr <;> rfl

theorem SocketAddr.compact_compact (addr : SocketAddr) : addr.compact.compact = addr.compact := by
  cases addr <;> rfl

theorem SocketAddr.compact_of_plain {addr : SocketAddr} (h : addr.Plain) : addr.compact = addr := by
  cases addr with
  | v4 ip port => rfl
  | v6 ip port flowinfo scopeId => rw [compact, h.1, h.2]

theorem SocketAddr.compact_eq_iff {addr : SocketAddr} : addr.compact = addr ↔ addr.Plain := by
  refine ⟨fun h => ?_, SocketAddr.compact_of_plain⟩
  cases addr with
  | v4 ip port => exact trivial
  | v6 ip port flowinfo scopeId =>
      rw [compact, SocketAddr.v6.injEq] at h
      exact ⟨h.2.2.1.symm, h.2.2.2.symm⟩

theorem UdpHeader.deserialize_serialize (hdr : UdpHeader) :
    UdpHeader.deserialize hdr.serialize = some { hdr with source := hdr.source.compact } := by
  have hlen := readU16_u16 hdr.len []
  rw [List.append_nil] at hlen
  simp only [deserialize, serialize, SocketAddr.deserialize_serialize, Option.bind_some, hlen,
    Option.map_some]

/-- The length of a header fits into one byte. -/
theorem UdpHeader.length_serialize_le (hdr : UdpHeader) : hdr.serialize.length ≤ 24 := by
  rcases hdr with ⟨source, len⟩
  cases source with
  | v4 ip port =>
      simp only [serialize, SocketAddr.serialize, List.length_append, length_u32,
        List.Vector.toList_length, u16, List.length_cons, List.length_nil]
      omega
  | v6 ip port flowinfo scopeId =>
      simp only [serialize, SocketAddr.serialize, List.length_append, length_u32,
        List.Vector.toList_length, u16, List.length_cons, List.length_nil]
      omega

/-! ### Writing and reading datagrams -/

/-- A header with its length in front. -/
def UdpHeader.frame (hdr : UdpHeader) : List UInt8 :=
  UInt8.ofNat hdr.serialize.length :: hdr.serialize

namespace Client

namespace Udp

/-- The payload's length is cut to the 16 bits of its field. -/
def UdpTraffic.write (t : UdpTraffic SocketAddr) : List UInt8 :=
  UdpHeader.frame { source := t.source, len := UInt16.ofNat t.data.length } ++ t.data

/-- The same for a payload that is not owned. -/
def UdpTraffic.writeSlice (source : SocketAddr) (data : List UInt8) : List UInt8 :=
  UdpHeader.frame { source := source, len := UInt16.ofNat data.length } ++ data

/-- Read the header and then the payload; `none` while bytes of either are
    missing. A header that does not decode is an error before the payload is
    looked at. -/
def UdpTraffic.read (hdrLen : UInt8) (bs : List UInt8) :
    Option (Except ReadError (UdpTraffic SocketAddr) × List UInt8) :=
  match readExact hdrLen.toNat bs with
  | none => none
  | some (buf, bs) => match UdpHeader.deserialize buf with
    -- The header has been taken off the stream, the payload has not.
    | none => some (.error (.deserialize "UdpHeader"), bs)
    | some hdr => (readExact hdr.len.toNat bs).map (fun p =>
        (.ok { source := hdr.source, data := p.1 }, p.2))

/-- What both ends do in a loop: `read_u8`, and `UdpTraffic::read` with what it
    returned. -/
def UdpTraffic.readFrame : List UInt8 →
    Option (Except ReadError (UdpTraffic SocketAddr) × List UInt8)
  | [] => none
  | hdrLen :: bs => UdpTraffic.read hdrLen bs

/-- A datagram as far as the wire carries it, if its length fits. -/
def UdpTraffic.compact (t : UdpTraffic SocketAddr) : UdpTraffic SocketAddr :=
  { t with source := t.source.compact }

/-- The wire does not see what compacting drops. -/
theorem UdpTraffic.write_compact (t : UdpTraffic SocketAddr) : t.compact.write = t.write := by
  simp only [write, compact, UdpHeader.frame, UdpHeader.serialize, SocketAddr.serialize_compact]

theorem UdpTraffic.readFrame_append {bs rest : List UInt8}
    {r : Except ReadError (UdpTraffic SocketAddr)} (h : readFrame bs = some (r, rest))
    (more : List UInt8) : readFrame (bs ++ more) = some (r, rest ++ more) := by
  cases bs with
  | nil => simp only [readFrame, reduceCtorEq] at h
  | cons hdrLen bs =>
      simp only [readFrame, read, List.cons_append] at h ⊢
      rcases hbuf : readExact hdrLen.toNat bs with _ | ⟨buf, bs'⟩
      · -- A header that is not complete gives no result to extend.
        simp only [hbuf, reduceCtorEq] at h
      · simp only [hbuf] at h
        simp only [readExact_append hbuf more]
        rcases hhdr : UdpHeader.deserialize buf with _ | hdr
        · simp only [hhdr, Option.some.injEq, Prod.mk.injEq] at h ⊢
          rw [← h.1, ← h.2]
          exact ⟨rfl, rfl⟩
        · simp only [hhdr, Option.map_eq_some_iff] at h ⊢
          -- The payload was complete before `more` came.
          rcases h with ⟨⟨data, rest'⟩, hdata, heq⟩
          simp only [Prod.mk.injEq] at heq
          exact ⟨(data, rest' ++ more), readExact_append hdata more, by rw [heq.1, heq.2]⟩

/-- Behind a header, a reader waits for the payload the header announces. -/
theorem UdpTraffic.readFrame_frame (hdr : UdpHeader) (bs : List UInt8) :
    readFrame (hdr.frame ++ bs) = (readExact hdr.len.toNat bs).map (fun p =>
      (.ok { source := hdr.source.compact, data := p.1 }, p.2)) := by
  have hle := hdr.length_serialize_le
  -- A header has 24 bytes at most, so its length is not cut.
  have hbyte : (UInt8.ofNat hdr.serialize.length).toNat = hdr.serialize.length := by
    rw [UInt8.toNat_ofNat']
    omega
  have hbuf : readExact hdr.serialize.length (hdr.serialize ++ bs) = some (hdr.serialize, bs) :=
    readExact_eq_some_iff.mpr ⟨rfl, rfl⟩
  simp only [UdpHeader.frame, List.cons_append, readFrame, read, hbyte, hbuf,
    UdpHeader.deserialize_serialize]

/-- A datagram whose length fits its field is read back compacted. -/
theorem UdpTraffic.readFrame_write {t : UdpTraffic SocketAddr} (hlen : t.data.length < 2 ^ 16)
    (rest : List UInt8) : readFrame (t.write ++ rest) = some (.ok t.compact, rest) := by
  have hdata : readExact (UInt16.ofNat t.data.length).toNat (t.data ++ rest) =
      some (t.data, rest) := by
    refine readExact_eq_some_iff.mpr ⟨rfl, ?_⟩
    rw [UInt16.toNat_ofNat']
    omega
  rw [write, List.append_assoc, readFrame_frame, hdata]
  rfl

/-- Datagrams as frames. What survives is what compacting leaves alone and
    whose length fits. -/
def udpCodec : FrameCodec (UdpTraffic SocketAddr) UInt8 ReadError where
  encode := UdpTraffic.write
  read := UdpTraffic.readFrame
  Valid := fun t => t.compact = t ∧ t.data.length < 2 ^ 16
  read_nil := rfl
  read_append := UdpTraffic.readFrame_append
  read_encode := by
    intro t ht rest
    rw [UdpTraffic.readFrame_write ht.2, ht.1]

end Udp

end Client

end Rathole
