import RtmpClient.Client.Session

namespace RtmpClient
namespace Client

open Library

/-!
# The URL of a client (`rtmpclient.cc`, `RtmpClient::RtmpClient`)

The constructor cuts the URL at the first slashes and at a colon.  What stands
between the slashes is kept in `rtmp_stream_`, what follows them in
`rtmp_app_`.
-/

def slash : UInt8 := 0x2f
def colon : UInt8 := 0x3a

/-- The members that the constructor takes from the URL. -/
structure UrlMembers where
  ip : List UInt8
  port : UInt16
  rtmpStream : List UInt8
  rtmpApp : List UInt8
  deriving DecidableEq, Repr

/-- `serveraddr_` from the part in front of the path.  `undefinedPort` is what
`atoi` yields on a number that is no `int`. -/
def serverAddr (undefinedPort : UInt16) (addr : List UInt8) : Option (List UInt8 × UInt16) :=
  match findFirstOf addr colon with
  | some pos =>
      (substrFrom addr (behind (some pos) 1)).map fun text =>
        (substrTo addr (some pos),
          ((atoi (cStr text)).map fun value => value.toUInt32.toUInt16).getD undefinedPort)
  | none => some (addr, 1935)

/-- The constructor; `none` when `substr` throws. -/
def UrlMembers.ofUrl (undefinedPort : UInt16) (rtmpurl : List UInt8) : Option UrlMembers := do
  let addr ← substrFrom rtmpurl (behind (findPiece (ascii "rtmp://") rtmpurl) (ascii "rtmp://").length)
  let pos := findFirstOf addr slash
  let url ← substrFrom addr (behind pos 1)
  let (ip, port) ← serverAddr undefinedPort (substrTo addr pos)
  let pos := findFirstOf url slash
  let rtmpApp ← substrFrom url (behind pos 1)
  return { ip, port, rtmpStream := substrTo url pos, rtmpApp }

/-! ## URLs with an application and a stream -/

/-- A part of a URL: it is not empty and has no separator. -/
structure UrlPart (text : List UInt8) : Prop where
  nonempty : text ≠ []
  noSlash : slash ∉ text
  noColon : colon ∉ text

/-- `rtmp://host[:port]/app/stream`. -/
structure StreamUrl where
  host : List UInt8
  port : Option (List UInt8)
  app : List UInt8
  stream : List UInt8
  host_part : UrlPart host
  port_part : forall text, port = some text -> UrlPart text
  app_part : UrlPart app
  stream_part : UrlPart stream

namespace StreamUrl

/-- The part in front of the path. -/
def authority (url : StreamUrl) : List UInt8 :=
  match url.port with
  | some port => url.host ++ colon :: port
  | none => url.host

def text (url : StreamUrl) : List UInt8 :=
  ascii "rtmp://" ++ (url.authority ++ slash :: (url.app ++ slash :: url.stream))

theorem authority_noSlash (url : StreamUrl) : slash ∉ url.authority := by
  have different : slash ≠ colon := by decide
  rw [authority]
  split
  next port given =>
    rw [List.mem_append, List.mem_cons, not_or, not_or]
    exact ⟨url.host_part.noSlash, different, (url.port_part port given).noSlash⟩
  · exact url.host_part.noSlash

theorem serverAddr_authority (url : StreamUrl) (undefinedPort : UInt16) :
    Exists fun port => serverAddr undefinedPort url.authority = some (url.host, port) := by
  rw [authority]
  split
  next port given =>
    have cut := @substr_cut url.host port colon url.host_part.noColon
    rw [findFirstOf_append url.host_part.noColon] at cut
    rw [serverAddr, findFirstOf_append url.host_part.noColon]
    simp only [cut.1, cut.2, Option.map_some]
    exact ⟨_, rfl⟩
  · rw [serverAddr, findFirstOf_eq_none url.host_part.noColon]
    exact ⟨1935, rfl⟩

/-- The constructor cuts every such URL: the application becomes
`rtmp_stream_`, the stream `rtmp_app_`. -/
theorem ofUrl_text (url : StreamUrl) (undefinedPort : UInt16) :
    Exists fun port => UrlMembers.ofUrl undefinedPort url.text =
      some { ip := url.host, port, rtmpStream := url.app, rtmpApp := url.stream } := by
  rcases url.serverAddr_authority undefinedPort with ⟨port, server⟩
  have scheme : substrFrom url.text (behind (findPiece (ascii "rtmp://") url.text) (ascii "rtmp://").length) =
      some (url.authority ++ slash :: (url.app ++ slash :: url.stream)) := by
    have here : behind (some 0) (ascii "rtmp://").length = (ascii "rtmp://").length := Nat.zero_add _
    rw [text, findPiece_prefix, here]
    exact substrFrom_append _ _
  have path := @substr_cut url.authority (url.app ++ slash :: url.stream) slash url.authority_noSlash
  have parts := @substr_cut url.app url.stream slash url.app_part.noSlash
  refine ⟨port, ?_⟩
  rw [UrlMembers.ofUrl, scheme]
  simp only [Option.bind_eq_bind, Option.bind_some, path.1, path.2, server, parts.1, parts.2]
  rfl

end StreamUrl

/-- The setting of a client that is constructed with this URL. -/
def Setting.construct (setting : Setting) (undefinedPort : UInt16) (rtmpurl : List UInt8) : Option Setting :=
  (UrlMembers.ofUrl undefinedPort rtmpurl).map fun members =>
    { setting with
      ip := members.ip
      port := members.port
      rtmpStream := members.rtmpStream
      rtmpApp := members.rtmpApp }

theorem Setting.construct_text {setting constructed : Setting} {undefinedPort : UInt16} {url : StreamUrl}
    (construct : setting.construct undefinedPort url.text = some constructed) :
    constructed.dir = setting.dir ∧ constructed.rtmpStream = url.app ∧ constructed.rtmpApp = url.stream := by
  rcases url.ofUrl_text undefinedPort with ⟨port, members⟩
  rw [Setting.construct, members, Option.map_some, Option.some.injEq] at construct
  rw [← construct]
  exact ⟨rfl, rfl, rfl⟩

end Client
end RtmpClient
