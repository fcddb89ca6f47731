import Courier.Tls.Der

/-
  Certificates, as far as it matters which public key they
  speak for.

  A public key is known by the octets that describe it: the
  algorithm, and the key as bits.  What they say is not
  looked at here.  Extensions must be written in order, and
  those with a meaning must not come twice.

  Key definitions include:
    * `Tls.Certificate`
    * `Tls.Extension`
    * `Tls.Extension.IsAccepted`
    * `Tls.Certificate.ofBytes?`
-/

------------------------------------------------------------
-- Extensions
------------------------------------------------------------

namespace Courier

namespace Tls

/- What is said in addition under a name. -/
structure Extension where
  name : Bytes
  isCritical : Bool
  content : Bytes
deriving DecidableEq, Repr

namespace Extension

/- A flag, which is set in exactly one way. -/
def flag?
    (e : Der.Element) : Option Bool :=
  match e.content with
  | [0] => some false
  | [255] => some true
  | _ => none

/- An extension of a name, a flag or not, and octets. -/
def ofItems? : List Der.Element → Option Extension
  | [name, content] =>
      if name.tag = Der.objectTag ∧
          content.tag = Der.octetsTag then
        some ⟨name.content, false, content.content⟩
      else
        none
  | [name, critical, content] =>
      if name.tag = Der.objectTag ∧
          critical.tag = Der.flagTag ∧
          content.tag = Der.octetsTag then
        (flag? critical).map fun isCritical =>
          ⟨name.content, isCritical, content.content⟩
      else
        none
  | _ => none

/- The extensions in the last part of a certificate. -/
def all?
    (e : Der.Element) : Option (List Extension) :=
  (Der.sequence? e.content).bind fun items =>
    items.mapM fun item => item.items?.bind ofItems?

/-
  The number of a known extension: use of the key, other
  names of the subject, constraints, constraints on names,
  where to find revocations, and further uses of the key.
-/
def number?
    (e : Extension) : Option UInt8 :=
  match e.name with
  | [85, 29, n] =>
      if [15, 17, 19, 30, 31, 37].contains n then some n
      else none
  | _ => none

/- The number of the use of the key, which is free in form. -/
def useNumber : UInt8 := 15

/-
  An extension with a meaning is a sequence, but for the use
  of the key.  Any other one may be passed over unless it is
  critical; a certificate that is trusted anyway may have
  even that.
-/
def IsAccepted
    (isTrusted : Bool)
    (e : Extension) : Prop :=
  match e.number? with
  | some n =>
      n = useNumber ∨
        (Der.single? e.content).map Der.Element.tag =
          some Der.sequenceTag
  | none => isTrusted ∨ e.isCritical = false

instance
    (isTrusted : Bool)
    (e : Extension) :
    Decidable (IsAccepted isTrusted e) := by
  unfold IsAccepted
  split <;> infer_instance

/- Every extension is accepted, and no known one is twice. -/
def AreAccepted
    (isTrusted : Bool)
    (all : List Extension) : Prop :=
  (∀ e ∈ all, e.IsAccepted isTrusted) ∧
    (all.filterMap number?).Nodup

instance
    (isTrusted : Bool)
    (all : List Extension) :
    Decidable (AreAccepted isTrusted all) := by
  unfold AreAccepted
  infer_instance

end Extension

end Tls

end Courier

------------------------------------------------------------
-- Certificates
------------------------------------------------------------

namespace Courier

namespace Tls

/- The version of a certificate's form. -/
inductive Form where
| first : Form
| third : Form
deriving DecidableEq, Repr

/- A certificate, by the public key that it speaks for. -/
structure Certificate where
  form : Form
  publicKey : Bytes
deriving DecidableEq, Repr

namespace Certificate

/- All elements are of the kinds at their places. -/
def haveTags
    (items : List Der.Element)
    (tags : List UInt8) : Bool :=
  items.map Der.Element.tag == tags

/-
  The kinds in every form: serial number, algorithm, issuer,
  dates, subject and key.
-/
def commonTags : List UInt8 :=
  Der.integerTag :: List.replicate 5 Der.sequenceTag

/- The certificate of elements in the first form. -/
def ofFirst?
    (items : List Der.Element) : Option Certificate :=
  if haveTags items commonTags then
    items.getLast?.map fun key => ⟨.first, key.content⟩
  else
    none

/-
  The certificate of elements in the third form after the
  version.  The algorithm is the one of the signature.
-/
def ofThird?
    (isTrusted : Bool)
    (algorithm : Der.Element)
    (items : List Der.Element) : Option Certificate :=
  match items.splitAt 6 with
  | ([serial, signed, issuer, dates, subject, key], more) =>
      if haveTags
          [serial, signed, issuer, dates, subject, key]
          commonTags ∧ signed.content = algorithm.content then
        match more with
        | [] => some ⟨.third, key.content⟩
        | [last] =>
            if last.tag = Der.placeTag 3 then
              match Extension.all? last with
              | some all =>
                  if Extension.AreAccepted isTrusted all then
                    some ⟨.third, key.content⟩
                  else
                    none
              | none => none
            else
              none
        | _ => none
      else
        none
  | _ => none

/- The certificate of the elements that were signed. -/
def ofSigned?
    (isTrusted : Bool)
    (algorithm : Der.Element) :
    List Der.Element → Option Certificate
  | [] => none
  | e :: rest =>
      if e.tag = Der.placeTag 0 then
        if e.content = [2, 1, 2] then
          ofThird? isTrusted algorithm rest
        else
          none
      else
        ofFirst? (e :: rest)

/-
  The certificate that octets hold.  Less is asked of one
  that is trusted anyway.
-/
def ofBytes?
    (isTrusted : Bool)
    (bytes : Bytes) : Option Certificate :=
  match Der.sequence? bytes with
  | some [signed, algorithm, signature] =>
      if algorithm.tag = Der.sequenceTag ∧
          signature.bits?.isSome then
        signed.items?.bind (ofSigned? isTrusted algorithm)
      else
        none
  | _ => none

end Certificate

end Tls

end Courier
