import StorageRouting.Access
import StorageRouting.S3.Connection
import StorageRouting.S3.Signature

/-
  Signed links to objects.

  Key definitions include:
    * `LinkMethod.sending`
    * `S3Connection.link`
-/

------------------------------------------------------------
-- Links
------------------------------------------------------------

namespace StorageRouting

namespace LinkMethod

/- The request that a link stands for. -/
def sending : LinkMethod → Sending
| .get => Sending.named .get "GetObject"
| .put => Sending.named .put "PutObject"
| .delete => Sending.named .delete "DeleteObject"
| .head => Sending.bare .head

end LinkMethod

namespace Unsendable

/- The text for a link that cannot be made. -/
def linkText : Unsendable → String
| .blankName => "failed to construct request"
| .noAddress => "dispatch failure"

end Unsendable

namespace S3Connection

variable {σ : Type}

/- The longest time for which a link can be used: a week. -/
def longestLink : Nat :=
  7 * 24 * 3600

/- The failure of a link that would last too long. -/
def linkTooLong : Error :=
  .general
    "presign config: \x60expires_in\x60 must be no longer than one week"

/- A signed link to an object that ends after so many seconds. -/
def link
    (c : S3Connection σ)
    (bucket key : String)
    (method : LinkMethod)
    (ttl : Nat)
    (now : Moment) : Except Error String :=
  if longestLink < ttl then .error linkTooLong
  else
    let subject : Subject := ⟨bucket, some key⟩
    let m := method.sending
    match subject.request c.config m.method m.query [] m.body with
    | .error e =>
        .error
          (.general
            ("presign " ++ m.method.name ++ ": " ++ e.linkText))
    | .ok r =>
        let signer : Signature.Signer :=
          { accessKey := c.accessKey, secretKey := c.secretKey
            region := c.config.region, moment := now }
        .ok (Signature.sign signer ttl r).target

end S3Connection

end StorageRouting
