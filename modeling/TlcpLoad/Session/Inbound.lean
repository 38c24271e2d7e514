import TlcpLoad.Session.Basic

/-! # Reading a stream

Each stream a session opens is read by a loop of its own. The loop counts what it reads into
the `bytes_read` counter of the client's statistics and feeds it to the stream's frame reader,
which signals every frame it completes to the actor. The loops differ only in when they do
each (`Inbound.take`):

* an HTTP exchange counts what comes on the bind channel only, and decodes unless its link has
  been sped up; only the bind exchange has a link, so the create stream is always decoded;
* the WebSocket loop counts every message, and decodes it unless the client ignores data or the
  link has been sped up;
* the raw WebSocket loop, and the HTTP bind stream of a client that ignores data, only count.

A loop reads its link afresh for every chunk, so a speed-up holds from the next chunk on. -/

namespace TlcpLoad

/-- What the read loop of a stream has done: the statistics it counts into, its frame reader,
    and the signals it has sent to the actor, oldest first. -/
structure Inbound where
  stats : Stats := {}
  reader : FrameReader
  sent : List Signal := []

namespace Inbound

/-- Takes one chunk of the stream: its bytes are counted when `counted`, and it is decoded when
    `decoded`, each frame it completes being signalled. -/
def take (i : Inbound) (counted decoded : Bool) (chunk : List UInt8) : Inbound :=
  let stats := if counted then i.stats.add .bytesRead chunk.length.toUInt64 else i.stats
  if decoded then
    let (signals, reader) := i.reader.feed chunk
    { stats, reader, sent := i.sent ++ signals }
  else { i with stats }

/-- Whether a stream's link, when it has one, has been sped up. -/
def spedUp : Option Link → Bool
  | some link => link.spedUp
  | none => false

/-- A chunk of an HTTP response body read on a channel, by an exchange with or without a
    link. -/
def httpChunk (i : Inbound) (channel : Channel) (link : Option Link) (chunk : List UInt8) :
    Inbound :=
  i.take (channel == .bind) (!spedUp link) chunk

/-- The data of one WebSocket message of the bind stream. -/
def wsChunk (i : Inbound) (ignoreData : Bool) (link : Link) (chunk : List UInt8) : Inbound :=
  i.take true (!ignoreData && !link.spedUp) chunk

/-- Bytes read by a loop that only counts. -/
def countChunk (i : Inbound) (chunk : List UInt8) : Inbound :=
  i.take true false chunk

/-- A chunk of a session's bind stream, read by the loop that its transport and the client's
    options choose. -/
def bindChunk (i : Inbound) (transport : Transport) (options : ClientOptions) (link : Link)
    (chunk : List UInt8) : Inbound :=
  match transport with
  | .httpStreaming =>
    if options.ignoreData then i.countChunk chunk else i.httpChunk .bind (some link) chunk
  | .wsStreaming =>
    if options.rawSocket then i.countChunk chunk else i.wsChunk options.ignoreData link chunk

/-- The bind stream's loop over the chunks it reads, each with the link as the loop finds it
    when the chunk comes. -/
def readBind (i : Inbound) (transport : Transport) (options : ClientOptions)
    (reads : List (Link × List UInt8)) : Inbound :=
  reads.foldl (fun i read => i.bindChunk transport options read.1 read.2) i

end Inbound

end TlcpLoad
