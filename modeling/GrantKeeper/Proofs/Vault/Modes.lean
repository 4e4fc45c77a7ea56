import GrantKeeper.Cipher.Nonce
import GrantKeeper.Proofs.Vault.Listing

/-! What a folder makes of a record that was written under another key, or under none. A plain
record is read whatever the key is; a sealed one is never a grant to a folder without a key. -/
namespace GrantKeeper

namespace Json
open Text (Octets)

theorem lexWordGives (lexeme : Lexeme) (word s : Octets) :
    (lexWord lexeme word s).1 = lexeme ∨ ∃ fault, (lexWord lexeme word s).1 = .torn fault fault := by
  fun_induction lexWord lexeme word s with
  | case1 => exact .inl rfl
  | case2 => exact .inr ⟨_,rfl⟩
  | case3 word b s ih => exact ih
  | case4 => exact .inr ⟨_,rfl⟩

def Lexeme.opens : Lexeme → Bool
  | .openObject | .openList => true
  | _ => false

theorem lexOneCloses {b : UInt8} (object : b ≠ 0x7B) (list : b ≠ 0x5B) (s : Octets) :
    (lexOne b s).1.opens = false := by
  have text : (lexText s).1.opens = false := by
    unfold lexText
    split <;> rfl
  have number : ∀ negative s, (lexNumber negative s).1.opens = false := by
    intro negative s
    unfold lexNumber
    split <;> rfl
  have word : ∀ lexeme word, lexeme.opens = false → (lexWord lexeme word s).1.opens = false := by
    intro lexeme word closed
    rcases lexWordGives lexeme word s with same | ⟨fault,torn⟩
    · rw [same,closed]
    · rw [torn]
      rfl
  have either : ∀ {c : Prop} [Decidable c] {x y : Bool}, x = false → y = false →
      (if c then x else y) = false := by
    intro c decided x y first second
    split <;> assumption
  simp only [lexOne,if_neg object,if_neg list,apply_ite Prod.fst,apply_ite Lexeme.opens]
  exact either rfl <| either rfl <| either rfl <| either rfl <| either text <|
    either (word _ _ rfl) <| either (word _ _ rfl) <| either (word _ _ rfl) <|
    either (number true s) <| either (number false _) rfl

theorem Layout.readClosed {σ : Type} (layout : Layout σ) {lexeme : Lexeme} (closed : lexeme.opens = false)
    (rest : List Lexeme) :
    layout.reader.read (lexeme :: rest) = .error (mismatch layout.wanted lexeme) := by
  cases lexeme <;> first | rfl | cases closed

theorem decodeUnopened {σ : Type} (layout : Layout σ) {b : UInt8} (filled : isSpace b = false)
    (object : b ≠ 0x7B) (list : b ≠ 0x5B) (s : Octets) :
    ∃ fault, decode layout.reader (b :: s) = .error fault := by
  have closed := lexOneCloses object list s
  refine ⟨mismatch layout.wanted (lexOne b s).1,?_⟩
  unfold decode
  rw [lex,filled,if_neg Bool.false_ne_true,layout.readClosed closed]

end Json

theorem Text.Base64.encodeLeads {octets : Octets} (filled : octets ≠ []) :
    ∃ n rest, n < 64 ∧ encode octets = symbol n :: rest := by
  cases octets using encode.fun_cases with
  | case1 => contradiction
  | case2 a =>
    have low := a.toNat_lt
    exact ⟨a.toNat / 4,_,by omega,rfl⟩
  | case3 a b =>
    have low := a.toNat_lt
    exact ⟨a.toNat / 4,_,by omega,rfl⟩
  | case4 a b c rest =>
    have low := a.toNat_lt
    exact ⟨a.toNat / 4,_,by omega,rfl⟩

theorem Text.Base64.symbolUnopened {n : Nat} (small : n < 64) :
    Json.isSpace (symbol n) = false ∧ symbol n ≠ 0x7B ∧ symbol n ≠ 0x5B := by
  revert n
  decide

namespace Vault.Folder
open Text (Octets)

theorem sealFilled (key : Cipher.Key) (nonce : Cipher.Nonce) (plain : Octets) :
    key.seal nonce plain ≠ [] := by
  intro nothing
  have front := nonce.sized
  unfold Cipher.Key.seal at nothing
  simp only [List.append_eq_nil_iff] at nothing
  rw [nothing.1.1] at front
  cases front

theorem sealedUnreadable (key : Cipher.Key) (nonce : Cipher.Nonce) (g : Grant) :
    ∃ fault, readRecord none (record (some key) nonce g) = .error (.unreadable fault) := by
  obtain ⟨n,rest,small,written⟩ :=
    Text.Base64.encodeLeads (sealFilled key nonce (plainRecord g))
  obtain ⟨filled,object,list⟩ := Text.Base64.symbolUnopened small
  obtain ⟨fault,fails⟩ := Json.decodeUnopened Grant.layout filled object list rest
  refine ⟨fault,?_⟩
  change Json.decode Grant.reader _ = _ at fails
  simp only [readRecord,readPlain,record,written,fails]

theorem readLegacy (key : Cipher.Key) (g : Grant) :
    readRecord (some key) (plainRecord g) = .ok g.floored := by
  simp only [readRecord,plainLooks,if_true,readPlainRecord]

structure Finds (f : Folder) (id : String) (octets : Octets) : Prop where
  usable : Enrollment.isUsableId id = true
  due : f.disk.nextMishap = none
  there : f.disk.tree.content? (f.directory.join ⟨recordName id⟩) = some octets

def loadedAs (id : String) : Except RecordDefect Grant → Except Fault (Option Grant)
  | .ok g => .ok (some g)
  | .error defect => .error (.corruptRecord id defect)

theorem Finds.load {f : Folder} {id : String} {octets : Octets} (finds : f.Finds id octets) :
    (f.load id).1 = loadedAs id (readRecord f.key octets) := by
  obtain ⟨usable,due,there⟩ := finds
  have read : f.disk.tree.read (f.directory.join ⟨recordName id⟩) = .ok octets := by
    unfold Disk.Tree.content? at there
    cases read : f.disk.tree.read (f.directory.join ⟨recordName id⟩) with
    | error fault =>
      rw [read] at there
      cases there
    | ok found =>
      rw [read] at there
      cases there
      rfl
  unfold Folder.load Disk.read Disk.look
  simp only [recordPath,if_pos usable,due,read]
  cases readRecord f.key octets <;> rfl

theorem recordsAcrossModes (g : Grant) (key : Cipher.Key) (nonce : Cipher.Nonce) :
    readRecord none (record none nonce g) = .ok g.floored ∧
    readRecord (some key) (record (some key) nonce g) = .ok g.floored ∧
    readRecord (some key) (record none nonce g) = .ok g.floored ∧
    (∃ fault, readRecord none (record (some key) nonce g) = .error (.unreadable fault)) ∧
    ∀ (f : Folder) id octets, f.Finds id octets →
      (f.load id).1 = loadedAs id (readRecord f.key octets) :=
  ⟨readRecordOf none nonce g,readRecordOf (some key) nonce g,readLegacy key g,
    sealedUnreadable key nonce g,fun _ _ _ finds => finds.load⟩

theorem recordsWithoutKey :
    let g := Grant.issued .epoch "A" "R" 60
    let box := record (some (.ofPassphrase "key")) (.countFrom 0 0) g
    let t := (Disk.Tree.empty.put ["t"] (.directory 0o700)).put ["t","a.json"] (.file 0o600 box)
    let f : Folder := ⟨Disk.ofTree t 7,⟨"/t"⟩,none,.countFrom 0,0⟩
    f.Finds "a" box ∧ ∃ defect, (f.load "a").1 = .error (.corruptRecord "a" defect) := by
  intro g box t f
  have entry := recordEntry (show Enrollment.isUsableId "a" = true by decide)
  have bare : (Disk.Tree.empty.put ["t"] (.directory 0o700)).Houses ⟨"/t"⟩ ["t"] :=
    ⟨by decide +kernel,0o700,by decide +kernel⟩
  have nothing : (Disk.Tree.empty.put ["t"] (.directory 0o700)).node? ["t","a.json"] = none := by
    decide +kernel
  have free : (Disk.Tree.empty.put ["t"] (.directory 0o700)).NoDirectory ["t","a.json"] := by
    simp [Disk.Tree.NoDirectory,nothing]
  have touches : Disk.Tree.Touches (["t","a.json"] = ·) _ t :=
    Disk.Tree.touchesPut rfl (by simp) free 0o600 box
  have there := (bare.touched touches).join entry (by decide +kernel)
  have finds : f.Finds "a" box := by
    refine ⟨by decide,rfl,?_⟩
    refine (Disk.Tree.contentThere (Disk.Path.asksJoin _ entry.toIsPart) there).trans ?_
    rw [Disk.Tree.nodePut (by simp),if_pos (by decide)]
  obtain ⟨-,-,-,⟨fault,fails⟩,load⟩ := recordsAcrossModes g (.ofPassphrase "key") (.countFrom 0 0)
  refine ⟨finds,.unreadable fault,?_⟩
  rw [load f "a" box finds]
  exact congrArg (loadedAs "a") fails

end Vault.Folder

end GrantKeeper
