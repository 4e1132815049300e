import StridedBuffer.Compression.Gzip
import StridedBuffer.Web.Url
import StridedBuffer.Fault

/-! # Downloading dataset files

A file is fetched with one GET. Any status but 200 fails with the status line. The body
may hold at most the byte limit; a body that starts with the gzip magic bytes is
decompressed, and the decompressed data is held to the same limit. Each stream is read up
to one byte past the limit, so a broken gzip stream is reported only if the break comes
before that byte. The count of bytes to read is a 64-bit sum: for the largest limit it
wraps below zero and nothing at all is read.
-/

namespace StridedBuffer.Dataset

/-- What the other side answers to a GET: no connection, or a status and a body. -/
inductive Reply where
  | refused
  | answer (status : Int) (body : ByteArray)

/-- The replies to every URL. -/
abbrev Transport := String → Reply

/-- The reason phrase of an HTTP status code; empty for an unknown one. -/
def statusText (code : Int) : String :=
  match code with
  | 100 => "Continue" | 101 => "Switching Protocols" | 102 => "Processing" | 103 => "Early Hints"
  | 200 => "OK" | 201 => "Created" | 202 => "Accepted" | 203 => "Non-Authoritative Information"
  | 204 => "No Content" | 205 => "Reset Content" | 206 => "Partial Content"
  | 207 => "Multi-Status" | 208 => "Already Reported" | 226 => "IM Used"
  | 300 => "Multiple Choices" | 301 => "Moved Permanently" | 302 => "Found" | 303 => "See Other"
  | 304 => "Not Modified" | 305 => "Use Proxy" | 307 => "Temporary Redirect"
  | 308 => "Permanent Redirect"
  | 400 => "Bad Request" | 401 => "Unauthorized" | 402 => "Payment Required" | 403 => "Forbidden"
  | 404 => "Not Found" | 405 => "Method Not Allowed" | 406 => "Not Acceptable"
  | 407 => "Proxy Authentication Required" | 408 => "Request Timeout" | 409 => "Conflict"
  | 410 => "Gone" | 411 => "Length Required" | 412 => "Precondition Failed"
  | 413 => "Request Entity Too Large" | 414 => "Request URI Too Long"
  | 415 => "Unsupported Media Type" | 416 => "Requested Range Not Satisfiable"
  | 417 => "Expectation Failed" | 418 => "I'm a teapot" | 421 => "Misdirected Request"
  | 422 => "Unprocessable Entity" | 423 => "Locked" | 424 => "Failed Dependency"
  | 425 => "Too Early" | 426 => "Upgrade Required" | 428 => "Precondition Required"
  | 429 => "Too Many Requests" | 431 => "Request Header Fields Too Large"
  | 451 => "Unavailable For Legal Reasons"
  | 500 => "Internal Server Error" | 501 => "Not Implemented" | 502 => "Bad Gateway"
  | 503 => "Service Unavailable" | 504 => "Gateway Timeout" | 505 => "HTTP Version Not Supported"
  | 506 => "Variant Also Negotiates" | 507 => "Insufficient Storage" | 508 => "Loop Detected"
  | 510 => "Not Extended" | 511 => "Network Authentication Required"
  | _ => ""

/-- The limit used when none is set: 512 MiB. -/
def defaultMaxBytes : Int64 := 512 * 1024 * 1024

/-- The byte limit a setting gives: zero or less means the default. -/
def byteLimit (maxBytes : Int64) : Int64 :=
  if maxBytes > 0 then maxBytes else defaultMaxBytes

/-- A fetched file: the bytes received and the data after decompression. -/
structure Fetched where
  received : Nat
  data : ByteArray

/-- The failure of data over the limit. -/
def tooLarge (limit : Int64) : Fault :=
  .plain ("content exceeds " ++ toString limit.toInt ++ " bytes")

/-- Reads a stream through a reader cut one byte past the limit, and refuses data that
reaches that byte. The stream is the data it yields and whether it then breaks, which
only a gzip stream does. The byte count asked of the reader is the limit plus one in 64
bits, and a reader asked for no bytes yields none. -/
def readLimited (limit : Int64) (stream : Gzip.Unpacked) : Outcome ByteArray :=
  let want := limit + 1
  if want ≤ 0 then .ok ByteArray.empty
  else if stream.failed && stream.data.size ≤ want.toInt.toNat then .error (.codec .gzip)
  else
    let got := stream.data.extract 0 want.toInt.toNat
    if (got.size : Int) > limit.toInt then .error (tooLarge limit) else .ok got

/-- What a reply to a GET of `target` gives: the body, decompressed when it is gzip. -/
def receive (maxBytes : Int64) (target : Web.Url) : Reply → Outcome Fetched
  | .refused =>
      .error (.plain ("Get " ++ Text.Quoted.quoteBytes target.redacted ++ ": connection refused"))
  | .answer status body => do
      if status != 200 then
        throw (.plain ("unexpected status " ++ toString status ++ " " ++ statusText status))
      let limit := byteLimit maxBytes
      let raw ← readLimited limit ⟨body, false⟩
      if !Gzip.isGzip raw then return ⟨raw.size, raw⟩
      let data ← (readLimited limit (Gzip.unpack raw)).within "gzip"
      return ⟨raw.size, data⟩

/-- Downloads `url` through `get`, which is asked only for a URL that can be requested,
in its written form. -/
def fetchBy {m : Type → Type} [Monad m] (get : String → m Reply) (maxBytes : Int64)
    (url : String) : m (Outcome Fetched) :=
  match Web.requestUrl url with
  | .error e => pure (.error (.context ("fetch " ++ url) (.plain e)))
  | .ok target => do return (receive maxBytes target (← get target.text)).within ("fetch " ++ url)

/-- Downloads `url`, decompressing a gzip body, from the replies of `transport`. -/
def fetchFile (transport : Transport) (maxBytes : Int64) (url : String) : Outcome Fetched :=
  fetchBy (m := Id) (fun target => pure (transport target)) maxBytes url

end StridedBuffer.Dataset
