/-!
# Constants

The sizes and durations of `constants.rs`, `server.rs` and `client.rs`. Time
is counted in nanoseconds.
-/

namespace Rathole

/-- Seconds in the clock's unit. -/
def seconds (n : Nat) : Nat := n * 1000000000

/-- `UDP_BUFFER_SIZE` -/
def udpBufferSize : Nat := 2048

/-- `UDP_SENDQ_SIZE` -/
def udpSendqSize : Nat := 1024

/-- `HASH_WIDTH_IN_BYTES` -/
def hashWidthInBytes : Nat := 32

/-- `CHAN_SIZE` -/
def chanSize : Nat := 2048

/-- `TCP_POOL_SIZE` -/
def tcpPoolSize : Nat := 8

/-- `UDP_POOL_SIZE` -/
def udpPoolSize : Nat := 2

end Rathole
