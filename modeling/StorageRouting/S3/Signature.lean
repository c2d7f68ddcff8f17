import StorageRouting.Bytes.Sha256
import StorageRouting.S3.Message
import StorageRouting.Time.Moment

/-
  Requests that are signed in their query.

  Key definitions include:
    * `Signature.scope`
    * `Signature.canonical`
    * `Signature.sign`
-/

------------------------------------------------------------
-- Scopes
------------------------------------------------------------

namespace StorageRouting

namespace Signature

/- The name of the way of signing. -/
def algorithm : String :=
  "AWS4-HMAC-SHA256"

/- Who signs, for which region, and when. -/
structure Signer where
  accessKey : String
  secretKey : String
  region : String
  moment : Moment

/- The day of a moment in eight digits. -/
def day (m : Moment) : String :=
  String.ofList (m.rfc3339.toList.take 10 |>.filter (· ≠ '-'))

/- A moment in digits, to the second. -/
def stamp (m : Moment) : String :=
  let time :=
    ((m.rfc3339.toList.drop 11).take 8).filter (· ≠ ':')
  day m ++ "T" ++ String.ofList time ++ "Z"

/- The scope of a signature: day, region and service. -/
def scope (s : Signer) : String :=
  day s.moment ++ "/" ++ s.region ++ "/s3/aws4_request"

end Signature

end StorageRouting

------------------------------------------------------------
-- Signing
------------------------------------------------------------

namespace StorageRouting

namespace Signature

/- The fields of a query that a signature adds but itself. -/
def fields
    (s : Signer)
    (ttl : Nat) : List QueryField :=
  [QueryField.of "X-Amz-Algorithm" algorithm,
    QueryField.of "X-Amz-Credential" (s.accessKey ++ "/" ++ scope s),
    QueryField.of "X-Amz-Date" (stamp s.moment),
    QueryField.of "X-Amz-Expires" (toString ttl),
    QueryField.of "X-Amz-SignedHeaders" "host"]

/- The field in the form that is signed. -/
def canonicalField (f : QueryField) : String :=
  (QueryField.of f.name (f.value.getD "")).text

/- The text of a request that is signed. -/
def canonical (r : Request) : String :=
  let query := (r.query.map canonicalField).mergeSort (· ≤ ·)
  Text.joinWith "\n"
    [r.method.name, r.path, Text.joinWith "&" query,
      "host:" ++ r.authority, "", "host", "UNSIGNED-PAYLOAD"]

/- Bytes as hexadecimal digits. -/
def hex (bytes : List UInt8) : String :=
  Bytes.hex (Bytes.ofList bytes)

/- The code of a text, made with a key. -/
def code
    (key : List UInt8)
    (text : String) : List UInt8 :=
  Sha256.authenticate key text.toUTF8.toList

/- The key of a scope. -/
def key (s : Signer) : List UInt8 :=
  [day s.moment, s.region, "s3", "aws4_request"].foldl code
    ("AWS4" ++ s.secretKey).toUTF8.toList

/- Sign a request for so many seconds. -/
def sign
    (s : Signer)
    (ttl : Nat)
    (r : Request) : Request :=
  let r := { r with query := r.query ++ fields s ttl }
  let signed :=
    Text.joinWith "\n"
      [algorithm, stamp s.moment, scope s,
        hex (Sha256.hash (canonical r).toUTF8.toList)]
  let signature := hex (code (key s) signed)
  { r with
    query := r.query ++ [QueryField.of "X-Amz-Signature" signature] }

end Signature

end StorageRouting
