import OffloadFabric.Serving

/-!
The command line and the two surfaces it works on: a runtime of its own, or a daemon behind a
connection. On either one a command is a request; the one executes it, the other writes it
into a socket after a handshake and reads the answer back.
-/
namespace OffloadFabric

open Codec

/-! ### Writing into the socket of the peer -/

namespace Server

end Server

/-! ### A connection with its two ends -/

/-- A client with its end of a connection, and a daemon with the other until it hangs up. -/
structure Link where
  channel : FrameChannel
  nextCorrelation : UInt64 := 1
  server : Server
  peer : Option FrameChannel

namespace Link

end Link

/-! ### Commands of a command line -/

end OffloadFabric
