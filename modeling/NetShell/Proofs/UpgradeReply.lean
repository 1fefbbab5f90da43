import NetShell.Proofs.Base64
import NetShell.Proofs.Lined
import NetShell.WebSocket.Upgrade

/-! The answer that completes an upgrade, for any key.

The client chooses its key, and the answer depends on it: but only through the digest of the key,
twenty bytes whatever the key is, and their Base64 text, which has no control characters. So the
answer is the same five lines for every key but for the accept value (`reply_lines`), and no key
makes a line more. -/
namespace NetShell.WebSocket

theorem ofText_eq (text : String) : Bytes.ofText text = text.toUTF8.data.toList := by
  conv => rhs; rw [← String.ofList_toList (s := text), String.toUTF8_eq_toByteArray,
    String.toByteArray_ofList]
  exact List.toList_data_toByteArray.symm

theorem acceptKey_eq (key : String) :
    (acceptKey key).toList = Digest.base64 (Digest.sha1 (key ++ keySuffix).toUTF8.data.toList) := by
  rw [acceptKey, String.toList_ofList, ← ofText_eq, Bytes.ofText, Bytes.ofText, Bytes.ofText,
    String.toList_append, List.flatMap_append]

/-- The lines of the answer, with an accept value. -/
def replyLines (accept : List Char) : List (List Char) :=
  ["HTTP/1.1 101 Switching Protocols".toList, "Upgrade: websocket".toList,
    "Connection: Upgrade".toList, "Sec-WebSocket-Accept: ".toList ++ accept, []]

theorem toList_switchingProtocols (key : String) :
    (switchingProtocols key).toList = (replyLines (acceptKey key).toList).flatMap
      (· ++ ['\r', '\n']) := by
  unfold switchingProtocols
  -- the texts on both sides are compared, not the digest
  generalize acceptKey key = accept
  have hstatus : "HTTP/1.1 101 Switching Protocols\r\n".toList =
      "HTTP/1.1 101 Switching Protocols".toList ++ ['\r', '\n'] := by decide +kernel
  have hupgrade : "Upgrade: websocket\r\n".toList = "Upgrade: websocket".toList ++ ['\r', '\n'] :=
    by decide +kernel
  have hconnection : "Connection: Upgrade\r\n".toList = "Connection: Upgrade".toList ++
      ['\r', '\n'] := by decide +kernel
  have hend : "\r\n".toList = ['\r', '\n'] := rfl
  simp only [String.toList_append, hstatus, hupgrade, hconnection, hend, replyLines,
    List.flatMap_cons, List.flatMap_nil, List.append_assoc, List.append_nil]
  rfl

theorem clear_iff {text : List Char} :
    (∀ c ∈ ['\r', '\n'], c ∉ text) ↔ '\r' ∉ text ∧ '\n' ∉ text := by
  simp

/-- An accept value without line ends makes no line more. -/
theorem clear_replyLines {accept : List Char} (h : ∀ c ∈ ['\r', '\n'], c ∉ accept) :
    ∀ line ∈ replyLines accept, ∀ c ∈ ['\r', '\n'], c ∉ line := by
  have hname : ∀ c ∈ ['\r', '\n'], c ∉ "Sec-WebSocket-Accept: ".toList :=
    clear_iff.2 (by decide +kernel)
  simp only [replyLines, List.forall_mem_cons (p := fun line => ∀ c ∈ ['\r', '\n'], c ∉ line)]
  refine ⟨clear_iff.2 (by decide +kernel), clear_iff.2 (by decide +kernel),
    clear_iff.2 (by decide +kernel),
    fun c hc hmem => ?_, clear_iff.2 (by decide), nofun⟩
  rcases List.mem_append.1 hmem with hmem | hmem
  · exact hname c hc hmem
  · exact h c hc hmem

theorem isBase64_acceptKey (key : String) :
    Digest.IsBase64 (Digest.sha1 (key ++ keySuffix).toUTF8.data.toList) (acceptKey key).toList := by
  rw [acceptKey_eq]
  exact Digest.isBase64_base64 _

/-- A digest of twenty bytes makes up twenty-seven symbols and one pad. -/
theorem accept_shape (key : String) :
    ∃ symbols, (acceptKey key).toList = symbols ++ ['='] ∧ symbols.length = 27 ∧ ∀ c ∈ symbols,
      c ∈ Digest.alphabet := by
  obtain ⟨symbols, pads, htext, hsymbols, hcount, hwhole⟩ := (isBase64_acceptKey key).shape
  rw [Digest.length_sha1] at hcount hwhole
  obtain rfl : pads = 1 := by omega
  exact ⟨symbols, htext, by omega, hsymbols⟩

theorem lined_switchingProtocols (key : String) :
    Text.Lined ['\r', '\n'] (switchingProtocols key).toList
      (replyLines (acceptKey key).toList) where
  text_eq := toList_switchingProtocols key
  clear := by
    obtain ⟨symbols, htext, -, hsymbols⟩ := accept_shape key
    have halphabet : ∀ c ∈ ['\r', '\n'], c ∉ Digest.alphabet := clear_iff.2 (by decide +kernel)
    have hpad : ∀ c ∈ ['\r', '\n'], c ∉ ['='] := clear_iff.2 (by decide)
    refine clear_replyLines fun c hc hmem => ?_
    rw [htext] at hmem
    rcases List.mem_append.1 hmem with hmem | hmem
    · exact halphabet c hc (hsymbols c hmem)
    · exact hpad c hc hmem

/-- **For every key the answer is the same five lines**, each ended by a carriage return and a
newline that stand nowhere else in it, but for the accept value: and that is the Base64 text, of
twenty-eight characters, of the digest of the key with its suffix, which is read back from it. -/
theorem reply_lines (key : String) :
    let digest := Digest.sha1 (key ++ "258EAFA5-E914-47DA-95CA-C5AB0DC85B11").toUTF8.data.toList
    let accept := (acceptKey key).toList
    (∀ lines, Text.Lined ['\r', '\n'] (switchingProtocols key).toList lines ↔
      lines = ["HTTP/1.1 101 Switching Protocols".toList, "Upgrade: websocket".toList,
        "Connection: Upgrade".toList, "Sec-WebSocket-Accept: ".toList ++ accept, []]) ∧
      digest.length = 20 ∧ (∀ text, Digest.IsBase64 digest text ↔ text = accept) ∧
        accept.length = 28 ∧
      (∀ c ∈ accept.take 27, c ∈ Digest.alphabet) ∧ accept.getLast? = some '=' ∧
        Digest.decode accept = some digest := by
  intro digest accept
  have hlined : Text.Lined ['\r', '\n'] (switchingProtocols key).toList (replyLines accept) :=
    lined_switchingProtocols key
  have hbase : Digest.IsBase64 digest accept := isBase64_acceptKey key
  obtain ⟨symbols, hshape, hcount, hsymbols⟩ : ∃ symbols,
    accept = symbols ++ ['='] ∧ symbols.length = 27 ∧
      ∀ c ∈ symbols, c ∈ Digest.alphabet := accept_shape key
  refine ⟨fun lines => ⟨fun h => h.unique (by simp) hlined, ?_⟩, Digest.length_sha1 _,
    fun text => ⟨fun h => h.unique hbase, ?_⟩, ?_, ?_, ?_, hbase.decode_eq⟩
  · rintro rfl
    exact hlined
  · rintro rfl
    exact hbase
  · rw [hshape, List.length_append, hcount, List.length_singleton]
  · rwa [hshape, List.take_left' hcount]
  · rw [hshape, List.getLast?_concat]

/-- A key and the accept value that answers it. -/
example : acceptKey "dGhlIHNhbXBsZSBub25jZQ==" = "s3pPLMBiTxaQ9kYGzzhZRbK+xOo=" := by decide +kernel

end NetShell.WebSocket
