/-
JSON strings in ASCII, as `json.dumps` writes them.

The printable ASCII characters but the double quote and the backslash stand for themselves. Seven characters have a short
escape; every other one is written with its UTF-16 code units, four lower-case hexadecimal digits each.
- `escape_append_inj`: no escape continues another one;
- `quoted_append_inj`: so a string in front of anything is determined by its text.
-/
import AstraFsw.Core.Escaping

namespace AstraFsw.JsonString

def dquote : Char := Char.ofNat 0x22

def backslash : Char := Char.ofNat 0x5C

def plain (c : Char) : Bool := decide (0x20 ≤ c.toNat ∧ c.toNat ≤ 0x7E) && c != dquote && c != backslash

/-- the character behind the backslash of a short escape -/
def short? (c : Char) : Option Char :=
  if c = dquote then some dquote
  else if c = backslash then some backslash
  else if c.toNat = 0x0A then some 'n'
  else if c.toNat = 0x0D then some 'r'
  else if c.toNat = 0x09 then some 't'
  else if c.toNat = 0x0C then some 'f'
  else if c.toNat = 0x08 then some 'b'
  else none

/-- the format `04x` of a number below 65536 -/
def hex4 (n : ℕ) : List Char :=
  [(n / 16 ^ 3 % 16).digitChar, (n / 16 ^ 2 % 16).digitChar, (n / 16 % 16).digitChar, (n % 16).digitChar]

/-- the code units of a character, behind the first backslash -/
def codeUnits (c : Char) : List Char :=
  if c.toNat < 0x10000 then 'u' :: hex4 c.toNat
  else
    let v := c.toNat - 0x10000
    'u' :: hex4 (0xD800 + v / 0x400) ++ backslash :: 'u' :: hex4 (0xDC00 + v % 0x400)

def escape (c : Char) : List Char :=
  if plain c then [c]
  else
    backslash :: match short? c with
      | some e => [e]
      | none => codeUnits c

def escaping : Escaping Char where
  literal := plain
  mark := backslash
  escape := escape
  mark_notLiteral := by decide
  escape_literal := fun c h => if_pos h
  escape_other := fun c h => ⟨_, if_neg (by rw [h]; exact Bool.false_ne_true)⟩

/-- the string between its quotes -/
def quoted (s : List Char) : List Char := dquote :: escaping.text s ++ [dquote]

/-! ## Injectivity -/

theorem digitChar_inj {a b : ℕ} (ha : a < 16) (hb : b < 16) (h : a.digitChar = b.digitChar) : a = b := by
  have hall : ∀ a b : Fin 16, a.val.digitChar = b.val.digitChar → a = b := by decide
  exact congrArg Fin.val (hall ⟨a, ha⟩ ⟨b, hb⟩ h)

theorem hex4_append_inj {n m : ℕ} (hn : n < 16 ^ 4) (hm : m < 16 ^ 4) {s t : List Char}
    (h : hex4 n ++ s = hex4 m ++ t) : n = m ∧ s = t := by
  obtain ⟨hhex, htail⟩ := List.append_inj h rfl
  simp only [hex4, List.cons.injEq, and_true] at hhex
  obtain ⟨h3, h2, h1, h0⟩ := hhex
  have h3 := digitChar_inj (Nat.mod_lt _ (by decide)) (Nat.mod_lt _ (by decide)) h3
  have h2 := digitChar_inj (Nat.mod_lt _ (by decide)) (Nat.mod_lt _ (by decide)) h2
  have h1 := digitChar_inj (Nat.mod_lt _ (by decide)) (Nat.mod_lt _ (by decide)) h1
  have h0 := digitChar_inj (Nat.mod_lt _ (by decide)) (Nat.mod_lt _ (by decide)) h0
  exact ⟨by omega, htail⟩

/-- a short escape determines its character, and is none of a code unit -/
theorem short?_spec {c e : Char} (h : short? c = some e) :
    e ≠ 'u' ∧ c = if e = 'n' then Char.ofNat 0x0A else if e = 'r' then Char.ofNat 0x0D else if e = 't' then
      Char.ofNat 0x09 else if e = 'f' then Char.ofNat 0x0C else if e = 'b' then Char.ofNat 0x08 else e := by
  have hchar {n : ℕ} (hc : c.toNat = n) : c = Char.ofNat n := by rw [← hc, Char.ofNat_toNat]
  unfold short? at h
  split_ifs at h with h1 h2 h3 h4 h5 h6 h7
  · obtain rfl := Option.some.inj h
    exact ⟨by decide, h1⟩
  · obtain rfl := Option.some.inj h
    exact ⟨by decide, h2⟩
  · obtain rfl := Option.some.inj h
    exact ⟨by decide, hchar h3⟩
  · obtain rfl := Option.some.inj h
    exact ⟨by decide, hchar h4⟩
  · obtain rfl := Option.some.inj h
    exact ⟨by decide, hchar h5⟩
  · obtain rfl := Option.some.inj h
    exact ⟨by decide, hchar h6⟩
  · obtain rfl := Option.some.inj h
    exact ⟨by decide, hchar h7⟩

theorem codeUnits_head (c : Char) : ∃ rest, codeUnits c = 'u' :: rest := by
  unfold codeUnits
  split_ifs
  · exact ⟨_, rfl⟩
  · exact ⟨_, rfl⟩

/-- a character is no surrogate -/
theorem toNat_cases (c : Char) : c.toNat < 0xD800 ∨ 0xDFFF < c.toNat ∧ c.toNat < 0x110000 := c.valid

theorem codeUnits_append_inj {c d : Char} {s t : List Char} (h : codeUnits c ++ s = codeUnits d ++ t) :
    c = d ∧ s = t := by
  have hc := toNat_cases c
  have hd := toNat_cases d
  have heq : ∀ {s t : List Char}, c.toNat = d.toNat ∧ s = t → c = d ∧ s = t := fun h => ⟨Char.toNat_inj.1 h.1, h.2⟩
  unfold codeUnits at h
  split_ifs at h with hbmp hbmp' hbmp'
  · exact heq (hex4_append_inj (by omega) (by omega) (List.cons.inj h).2)
  · -- the first code unit of a pair is a surrogate
    rw [List.cons_append, List.cons_append, List.cons_append, List.append_assoc] at h
    have hfirst := (hex4_append_inj (by omega) (by omega) (List.cons.inj h).2).1
    omega
  · rw [List.cons_append, List.cons_append, List.cons_append, List.append_assoc] at h
    have hfirst := (hex4_append_inj (by omega) (by omega) (List.cons.inj h).2).1
    omega
  · simp only [List.cons_append, List.append_assoc] at h
    obtain ⟨hfirst, hrest⟩ := hex4_append_inj (by omega) (by omega) (List.cons.inj h).2
    obtain ⟨hsecond, htail⟩ := hex4_append_inj (by omega) (by omega) (List.cons.inj (List.cons.inj hrest).2).2
    exact heq ⟨by omega, htail⟩

/-- **No escape continues another one.** -/
theorem escape_append_inj (c d : Char) (s t : List Char) (h : escape c ++ s = escape d ++ t) : c = d ∧ s = t := by
  have hplain {c : Char} (hc : plain c = true) : c ≠ backslash := by
    intro heq
    rw [heq] at hc
    exact absurd hc (by decide)
  unfold escape at h
  split_ifs at h with hc hd hd
  · exact List.cons.inj h
  · exact absurd (List.cons.inj h).1 (hplain hc)
  · exact absurd (List.cons.inj h).1.symm (hplain hd)
  · have htail := (List.cons.inj h).2
    cases hshort : short? c with
    | some e =>
      obtain ⟨heu, hce⟩ := short?_spec hshort
      cases hshort' : short? d with
      | some f =>
        rw [hshort, hshort'] at htail
        obtain ⟨rfl, hst⟩ := List.cons.inj htail
        exact ⟨hce.trans (short?_spec hshort').2.symm, hst⟩
      | none =>
        rw [hshort, hshort'] at htail
        obtain ⟨rest, hrest⟩ := codeUnits_head d
        rw [hrest] at htail
        exact absurd (List.cons.inj htail).1 heu
    | none =>
      cases hshort' : short? d with
      | some f =>
        rw [hshort, hshort'] at htail
        obtain ⟨rest, hrest⟩ := codeUnits_head c
        rw [hrest] at htail
        exact absurd (List.cons.inj htail).1.symm (short?_spec hshort').1
      | none =>
        rw [hshort, hshort'] at htail
        exact codeUnits_append_inj htail

theorem escape_head_ne_dquote (c : Char) : (escape c).head? ≠ some dquote := by
  unfold escape
  split_ifs with hc
  · rw [List.head?_cons]
    intro h
    rw [Option.some.inj h] at hc
    exact absurd hc (by decide)
  · rw [List.head?_cons]
    decide

/-- **A JSON string in front of anything determines its text.** -/
theorem quoted_append_inj {n m s t : List Char} (h : quoted n ++ s = quoted m ++ t) : n = m ∧ s = t := by
  rw [quoted, quoted, List.cons_append, List.cons_append, List.append_assoc, List.append_assoc] at h
  exact escaping.text_append_inj escape_append_inj escape_head_ne_dquote (List.cons.inj h).2

end AstraFsw.JsonString
