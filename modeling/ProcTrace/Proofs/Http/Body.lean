import ProcTrace.Http.Message
import ProcTrace.Proofs.Text.Utf8

/-!
# What is read of a body

The text of a reply is that of the body which was sent. Nothing is read of a body that is cut, and
nothing is to be read of one that the status does not have; every other body is decoded, and a text
that was sent in UTF-8 is read as it is. A byte order mark in front of it is left out, and says what
the encoding is, whatever the content type says.
-/

namespace ProcTrace

open Text (Charset)
open Text.Utf8 (decode_encode encode pieces pieces_encode piecesAfter)

namespace Text.Charset

/-- No text has a byte in it that starts no character. -/
private theorem encode_ne_of_start {b : UInt8} (h : Utf8.start b = .none) (bs : Bytes)
    (cs : List Char) : encode cs ≠ b :: bs := by
  intro hbs
  have hpieces := pieces_encode cs
  rw [hbs, pieces, piecesAfter, h] at hpieces
  have hnone : none ∈ cs.map some := hpieces ▸ List.mem_cons_self
  simp at hnone

/-- Only the mark has the bytes of the mark. -/
private theorem head?_of_encode {cs : List Char} {bs : Bytes}
    (h : encode cs = 0xEF :: 0xBB :: 0xBF :: bs) : cs.head? = some '\uFEFF' := by
  have hmark : pieces (encode cs) = some '\uFEFF' :: piecesAfter none bs := by
    rw [h]
    exact Utf8.piecesAfter_encode '\uFEFF' bs
  rw [pieces_encode] at hmark
  cases cs with
  | nil => cases hmark
  | cons c cs => exact (List.cons.inj hmark).1

/-- A text is read as it was sent, unless it starts with the character that is the mark. -/
private theorem decode_utf8_encode {cs : List Char} (h : cs.head? ≠ some '\uFEFF') :
    Charset.utf8.decode (encode cs) = cs := by
  unfold decode
  split
  · next bs hbs => exact absurd (head?_of_encode hbs) h
  · next bs hbs => exact absurd hbs (encode_ne_of_start rfl _ cs)
  · next bs hbs => exact absurd hbs (encode_ne_of_start rfl _ cs)
  · exact decode_encode cs

/-- **The mark wins** over every name of an encoding. -/
theorem decode_mark (e : Charset) (cs : List Char) : e.decode (encode ('\uFEFF' :: cs)) = cs :=
  decode_encode cs

end Text.Charset

namespace Http

/-- The reply **carries** a text: its body arrives in full, and is the text in UTF-8. -/
structure Reply.Carries (reply : Reply) (cs : List Char) : Prop where
  status : ¬ reply.status.isBodiless
  whole : ¬ reply.cut
  charset : reply.charset = .utf8
  body : reply.body = encode cs

/-- What the text of a reply is. -/
structure Reply.IsRead (reply : Reply) : Prop where
  /-- There is none exactly if the status goes with a body, and this is cut. -/
  eq_none_iff : reply.text? = none ↔ ¬ reply.status.isBodiless ∧ reply.cut
  /-- Where no body belongs to the status, the text is empty. -/
  of_isBodiless (h : reply.status.isBodiless) : reply.text? = some ""
  /-- The body is decoded in its encoding. -/
  decoded (hstatus : ¬ reply.status.isBodiless) (hwhole : ¬ reply.cut) :
    reply.text? = some (String.ofList (reply.charset.decode reply.body))
  /-- So a text that was sent in UTF-8 is read as it is. -/
  of_carries (cs : List Char) (h : reply.Carries cs) (hmark : cs.head? ≠ some '\uFEFF') :
    reply.text? = some (String.ofList cs)
  /-- With a mark in front of it this needs no word about the encoding. -/
  of_mark (hstatus : ¬ reply.status.isBodiless) (hwhole : ¬ reply.cut) (cs : List Char)
    (hbody : reply.body = encode ('\uFEFF' :: cs)) : reply.text? = some (String.ofList cs)

/-- **The text of a reply is that of its body.** -/
theorem Reply.isRead (reply : Reply) : reply.IsRead := by
  have hdecoded (hstatus : ¬ reply.status.isBodiless) (hwhole : ¬ reply.cut) :
      reply.text? = some (String.ofList (reply.charset.decode reply.body)) := by
    rw [text?, if_neg hstatus, if_neg hwhole]
  refine ⟨?_, fun h => if_pos h, hdecoded, fun cs h hmark => ?_, fun hstatus hwhole cs hbody => ?_⟩
  · unfold text?
    split_ifs <;> simp [*]
  · rw [hdecoded h.status h.whole, h.charset, h.body, Text.Charset.decode_utf8_encode hmark]
  · rw [hdecoded hstatus hwhole, hbody, Charset.decode_mark]

end Http

end ProcTrace
