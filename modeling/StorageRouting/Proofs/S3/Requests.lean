import Mathlib.Data.List.Forall2
import StorageRouting.Proofs.Document.Escapes
import StorageRouting.Proofs.Url.Encoding
import StorageRouting.S3.Upload

/-
  What stands in the requests that store an object: where each
  goes, what it names, and what it carries.  A place and a
  document are told by how they are read.

  Key definitions include:
    * `Url.Spells`
    * `Xml.Spells`
    * `StoredPart.Lists`
    * `Request.IsAbout`
    * `Request.Carries`
    * `Request.StoresWhole`
    * `Request.OpensUpload`
    * `Request.StoresPart`
    * `Request.CompletesUpload`
    * `Request.AbortsUpload`

  Main statements:
    * `StoredPart.lists_document`
    * `Subject.carries_of_request`
    * `Request.Carries.completesUpload`
-/

------------------------------------------------------------
-- Written Names
------------------------------------------------------------

namespace StorageRouting

/-
  A text stands for a name in a path: it is decoded as the name,
  and nothing in it ends the path.
-/
structure Url.Spells (written name : String) : Prop where
  decoded : percentDecode? written.toList = some name
  uncut : ∀ c ∈ ['?', '#'], c ∉ written.toList

/-
  A text stands for a name in a document: it is read as the
  name, and no element begins in it.
-/
structure Xml.Spells (written name : String) : Prop where
  decoded : unescape? written = some name
  flat : '<' ∉ written.toList

theorem Xml.spells_escaped (s : String) :
    Spells (escaped s) s :=
  ⟨unescape?_escaped s, not_mem_escaped s⟩

/- Text in percent form stands for the text that was encoded. -/
theorem Url.spells_percentText
    {set : Char → Bool}
    (h : ∀ c ∈ ['%', '?', '#'], set c = true)
    (s : String) :
    Spells (percentText set s) s where
  decoded :=
    percentDecode?_percentText (h '%' (by decide)) s
  uncut := by
    have hDigit : ∀ c ∈ ['?', '#'], Hex.value? c = none := by
      simp [Hex.value?]
    intro c hc
    have hMember : c ∈ ['%', '?', '#'] := List.mem_cons_of_mem _ hc
    have hMark : c ≠ '%' := by
      rintro rfl
      exact absurd hc (by decide)
    exact not_mem_percentText (h c hMember) hMark (hDigit c hc) s

end StorageRouting

------------------------------------------------------------
-- Lists of Parts
------------------------------------------------------------

namespace StorageRouting

namespace StoredPart

/- The element for a part: its tag, if it has one, and its number. -/
inductive Spells : StoredPart → String → Prop
| tagged
    {number : Nat}
    {tag writtenTag writtenNumber : String}
    (tag_spelled : Xml.Spells writtenTag tag)
    (number_spelled : Xml.Spells writtenNumber (toString number)) :
    Spells ⟨number, some tag⟩
      ("<Part><ETag>" ++ writtenTag ++ "</ETag><PartNumber>" ++
        writtenNumber ++ "</PartNumber></Part>")
| untagged
    {number : Nat}
    {writtenNumber : String}
    (number_spelled : Xml.Spells writtenNumber (toString number)) :
    Spells ⟨number, none⟩
      ("<Part><PartNumber>" ++ writtenNumber ++
        "</PartNumber></Part>")

/- A document lists parts: one element for each, in order. -/
def Lists
    (parts : List StoredPart)
    (document : String) : Prop :=
  ∃ elements : List String,
    List.Forall₂ Spells parts elements ∧
    document =
      "<CompleteMultipartUpload " ++
        "xmlns=\"http://s3.amazonaws.com/doc/2006-03-01/\">" ++
        String.join elements ++ "</CompleteMultipartUpload>"

theorem spells_text (p : StoredPart) : Spells p p.text := by
  rcases p with ⟨number, tag⟩
  have hNumber := Xml.spells_escaped (toString number)
  cases tag with
  | none =>
      have hText :
          text ⟨number, none⟩ =
            "<Part><PartNumber>" ++ Xml.escaped (toString number) ++
              "</PartNumber></Part>" := by
        simp [text, Xml.textElement, Xml.element, ← String.toList_inj]
      rw [hText]
      exact .untagged hNumber
  | some tag =>
      have hText :
          text ⟨number, some tag⟩ =
            "<Part><ETag>" ++ Xml.escaped tag ++
              "</ETag><PartNumber>" ++
              Xml.escaped (toString number) ++
              "</PartNumber></Part>" := by
        simp [text, Xml.textElement, Xml.element, ← String.toList_inj]
      rw [hText]
      exact .tagged (Xml.spells_escaped tag) hNumber

/- The document for parts lists them. -/
theorem lists_document (parts : List StoredPart) :
    Lists parts (document parts) := by
  refine ⟨parts.map text, ?_, rfl⟩
  induction parts with
  | nil => exact .nil
  | cons p parts ih => exact .cons (spells_text p) ih

end StoredPart

end StorageRouting

------------------------------------------------------------
-- Places
------------------------------------------------------------

namespace StorageRouting

/- The path of a service without the slash at its end. -/
def ServiceAddress.IsRoot
    (a : ServiceAddress)
    (root : String) : Prop :=
  a.path = root ++ "/" ∨
    (a.path = root ∧ ∀ front : String, root ≠ front ++ "/")

/-
  A request goes to a subject, at the service of a
  configuration.  The bucket is named in front of the host, or
  else in the path before the key.
-/
inductive Request.IsAbout
    (config : BackendConfig)
    (subject : Subject)
    (r : Request) : Prop
| in_host
    {a : ServiceAddress}
    {root key : String}
    (address : config.serviceAddress? = some a)
    (own : a.hasOwnHost config.pathStyle subject.bucket = true)
    (rooted : a.IsRoot root)
    (key_spelled : Url.Spells key (subject.key.getD ""))
    (scheme : r.scheme = a.scheme)
    (authority : r.authority = subject.bucket ++ "." ++ a.authority)
    (path : r.path = root ++ "/" ++ key)
| in_path
    {a : ServiceAddress}
    {root bucket key : String}
    (address : config.serviceAddress? = some a)
    (shared : a.hasOwnHost config.pathStyle subject.bucket = false)
    (rooted : a.IsRoot root)
    (bucket_spelled : Url.Spells bucket subject.bucket)
    (bucket_whole : '/' ∉ bucket.toList)
    (key_spelled : Url.Spells key (subject.key.getD ""))
    (scheme : r.scheme = a.scheme)
    (authority : r.authority = a.authority)
    (path : r.path = root ++ "/" ++ bucket ++ "/" ++ key)

/- A request goes to a subject with all that is to be sent. -/
structure Request.Carries
    (config : BackendConfig)
    (subject : Subject)
    (m : Sending)
    (r : Request) : Prop where
  about : r.IsAbout config subject
  method : r.method = m.method
  query : r.query = m.query
  headers : r.headers = m.headers
  body : r.body = m.body

namespace ServiceAddress

/- The root of a path is found by dropping a slash. -/
theorem isRoot_dropEnd?
    (a : ServiceAddress) :
    a.IsRoot
      (String.ofList
        ((Text.dropEnd? ['/'] a.path.toList).getD a.path.toList)) := by
  cases hDrop : Text.dropEnd? ['/'] a.path.toList with
  | some front =>
      rw [Text.dropEnd?_eq_some_iff] at hDrop
      refine Or.inl ?_
      rw [← String.toList_inj, hDrop]
      simp
  | none =>
      rw [Option.getD_none, String.ofList_toList]
      refine Or.inr ⟨rfl, ?_⟩
      intro front hFront
      have hSlash :
          Text.dropEnd? ['/'] a.path.toList = some front.toList := by
        rw [Text.dropEnd?_eq_some_iff, hFront, String.toList_append]
        rfl
      rw [hDrop] at hSlash
      cases hSlash

theorem spells_keyText (key : String) :
    Url.Spells (keyText key) key :=
  Url.spells_percentText (by simp [Url.reservedSet]) key

end ServiceAddress

/- The key at the end of a path. -/
theorem Subject.spells_key (s : Subject) :
    Url.Spells ((s.key.map ServiceAddress.keyText).getD "")
      (s.key.getD "") := by
  cases hKey : s.key with
  | none => exact ⟨rfl, by simp⟩
  | some key => exact ServiceAddress.spells_keyText key

/- A request about a subject goes there with all it was given. -/
theorem Subject.carries_of_request
    {config : BackendConfig}
    {subject : Subject}
    {m : Sending}
    {r : Request}
    (h :
      subject.request config m.method m.query m.headers m.body =
        .ok r) :
    r.Carries config subject m := by
  unfold Subject.request at h
  split at h
  case isTrue => cases h
  case isFalse =>
    split at h
    case h_1 => cases h
    case h_2 a hAddress =>
      simp only at h
      split at h
      case isTrue => cases h
      case isFalse =>
        cases h
        refine ⟨?_, rfl, rfl, rfl, rfl⟩
        cases hOwn : a.hasOwnHost config.pathStyle subject.bucket with
        | true =>
            refine .in_host hAddress hOwn a.isRoot_dropEnd?
              subject.spells_key rfl ?_ ?_
            · simp only [ServiceAddress.place, hOwn, if_true]
            · simp only [ServiceAddress.place, hOwn, if_true]
        | false =>
            have hBucket :
                Url.Spells
                  (Url.percentText Url.reservedSet subject.bucket)
                  subject.bucket :=
              Url.spells_percentText (by simp [Url.reservedSet])
                subject.bucket
            have hWhole :
                '/' ∉ (Url.percentText Url.reservedSet
                  subject.bucket).toList :=
              Url.not_mem_percentText (by decide) (by decide)
                (by decide) subject.bucket
            refine .in_path hAddress hOwn a.isRoot_dropEnd? hBucket
              hWhole subject.spells_key rfl ?_ ?_
            · simp only [ServiceAddress.place, hOwn,
                Bool.false_eq_true, if_false]
            · simp only [ServiceAddress.place, hOwn,
                Bool.false_eq_true, if_false, String.append_assoc]

end StorageRouting

------------------------------------------------------------
-- What Requests Ask
------------------------------------------------------------

namespace StorageRouting

namespace Request

variable (config : BackendConfig) (subject : Subject)

/- A request stores a whole object of a type. -/
def StoresWhole
    (data : Bytes)
    (contentType : Option String)
    (r : Request) : Prop :=
  r.Carries config subject
    { method := .put
      query := [⟨"x-id", some "PutObject"⟩]
      headers :=
        [("content-length", toString data.size),
          ("content-type",
            contentType.getD "application/octet-stream")]
      body := data }

/- A request opens an upload of an object of a type. -/
def OpensUpload
    (contentType : Option String)
    (r : Request) : Prop :=
  r.Carries config subject
    { method := .post
      query := [⟨"uploads", none⟩]
      headers := (contentType.map (Prod.mk "content-type")).toList
      body := Bytes.empty }

/- A request stores a part of an upload under a number. -/
def StoresPart
    (id : String)
    (number : Nat)
    (part : Bytes)
    (r : Request) : Prop :=
  r.Carries config subject
    { method := .put
      query :=
        [⟨"x-id", some "UploadPart"⟩,
          ⟨"partNumber", some (toString number)⟩,
          ⟨"uploadId", some id⟩]
      headers :=
        [("content-length", toString part.size),
          ("content-type", "application/octet-stream")]
      body := part }

/- A request completes an upload with parts. -/
def CompletesUpload
    (id : String)
    (parts : List StoredPart)
    (r : Request) : Prop :=
  ∃ document : String,
    StoredPart.Lists parts document ∧
    r.Carries config subject
      { method := .post
        query := [⟨"uploadId", some id⟩]
        headers :=
          [("content-length",
              toString (Bytes.ofString document).size),
            ("content-type", "application/xml")]
        body := Bytes.ofString document }

/- A request gives an upload up. -/
def AbortsUpload
    (id : String)
    (r : Request) : Prop :=
  r.Carries config subject
    { method := .delete
      query :=
        [⟨"x-id", some "AbortMultipartUpload"⟩,
          ⟨"uploadId", some id⟩]
      headers := []
      body := Bytes.empty }

variable {config : BackendConfig} {subject : Subject}
variable {r : Request} {contentType : Option String}
variable {id : String}

theorem Carries.storesWhole
    {data : Bytes}
    (h :
      r.Carries config subject
        (S3Connection.wholeSending data contentType)) :
    r.StoresWhole config subject data contentType :=
  h

theorem Carries.opensUpload
    (h :
      r.Carries config subject
        (S3Connection.openSending contentType)) :
    r.OpensUpload config subject contentType :=
  h

theorem Carries.storesPart
    {number : Nat}
    {part : Bytes}
    (h :
      r.Carries config subject
        (S3Connection.partSending id number part)) :
    r.StoresPart config subject id number part :=
  h

/- The document of the request lists the parts. -/
theorem Carries.completesUpload
    {parts : List StoredPart}
    (h :
      r.Carries config subject
        (S3Connection.completeSending id parts)) :
    r.CompletesUpload config subject id parts :=
  ⟨StoredPart.document parts, StoredPart.lists_document parts, h⟩

theorem Carries.abortsUpload
    (h :
      r.Carries config subject (S3Connection.abortSending id)) :
    r.AbortsUpload config subject id :=
  h

end Request

end StorageRouting
