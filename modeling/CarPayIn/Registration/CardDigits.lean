import CarPayIn.Integers
import CarPayIn.Backend.Services

/-! # The last four digits of a card

The card service, the card webhook and the table of billing keys each have their
own notion of a digit, and the webhook also has one of its own of where a text
ends. A card passes all three only if its digits are those of ASCII.
-/

namespace CarPayIn.MockCard

open Process

/-! ## The validator of the card service -/

/-- The characters other than decimal ones that are digits to `str.isdigit`. -/
def otherDigits : List (Nat × Nat) :=
  [(0xB2, 0xB3), (0xB9, 0xB9), (0x1369, 0x1371), (0x19DA, 0x19DA), (0x2070, 0x2070),
    (0x2074, 0x2079), (0x2080, 0x2089), (0x2460, 0x2468), (0x2474, 0x247C), (0x2488, 0x2490),
    (0x24EA, 0x24EA), (0x24F5, 0x24FD), (0x24FF, 0x24FF), (0x2776, 0x277E), (0x2780, 0x2788),
    (0x278A, 0x2792), (0x10A40, 0x10A43), (0x10E60, 0x10E68), (0x11052, 0x1105A),
    (0x1F100, 0x1F10A)]

def isDigit (c : Char) : Bool :=
  PyInt.isDecimal c || otherDigits.any fun run => run.1 ≤ c.toNat ∧ c.toNat ≤ run.2

def isdigit (text : String) : Bool := !text.toList.isEmpty && text.toList.all isDigit

def split (separator : Char) : List Char → List (List Char)
  | [] => [[]]
  | c :: cs =>
      if c = separator then [] :: split separator cs
      else match split separator cs with
        | [] => [[c]]
        | part :: parts => (c :: part) :: parts

def readExpiry (expiry : String) : Except PyError (Int × Int) :=
  match split '/' expiry.toList with
  | [monthText, yearText] =>
      match PyInt.parse yearText, PyInt.parse monthText with
      | some year, some month => .ok (2000 + year, month)
      | _, _ => .error (.valueError "invalid literal for int() with base 10")
  | _ => .error (.valueError "not enough values to unpack (expected 2)")

/-- The integers that `datetime` takes. -/
def fitsInt (n : Int) : Bool := -2 ^ 31 ≤ n ∧ n < 2 ^ 31

def firstOfMonth (year month : Int) : Except PyError (Int × Int) :=
  if ¬(fitsInt year ∧ fitsInt month) then
    .error (.exception "Python int too large to convert to C int")
  else if ¬(1 ≤ year ∧ year ≤ 9999) then .error (.valueError "year is out of range")
  else if ¬(1 ≤ month ∧ month ≤ 12) then .error (.valueError "month must be in 1..12")
  else .ok (year, month)

namespace MockCardValidator

/-- The expiry is compared with the current year and month. An `OverflowError` is not caught. -/
def validateCard (now : Int × Int) (cardNumber expiry cvc : String) : Except PyError Bool :=
  if cardNumber.toList.length ≠ 16 ∨ ¬isdigit cardNumber then .ok false
  else if cvc.toList.length ≠ 3 ∨ ¬isdigit cvc then .ok false
  else match (readExpiry expiry).bind fun (year, month) => firstOfMonth year month with
    | .error (.valueError _) => .ok false
    | .error e => .error e
    | .ok (year, month) => .ok (now.1 < year || now.1 = year && now.2 ≤ month)

theorem validateCard_eq_true {now : Int × Int} {cardNumber expiry cvc : String}
    (h : validateCard now cardNumber expiry cvc = .ok true) :
    cardNumber.toList.length = 16 ∧ ∀ c ∈ cardNumber.toList, isDigit c = true := by
  unfold validateCard at h
  split at h
  · cases h
  · rename_i hnumber
    simp only [isdigit, not_or, Decidable.not_not, Bool.and_eq_true, List.all_eq_true] at hnumber
    exact ⟨hnumber.1, hnumber.2.2⟩

end MockCardValidator

/-! ## Verification -/

structure VerifyAndTokenizeCardCommand where
  userId : String
  cardNumber : String
  expiry : String
  cvc : String
deriving DecidableEq, Repr

structure VerifyAndTokenizeCardResult where
  cardToken : String
  lastFour : String
deriving DecidableEq, Repr

structure MockCardEncryptor where
  encryptCardNumber : String → String
  hashCvc : String → String

inductive Op : Type → Type where
  /-- The year and the month of `datetime.now(timezone.utc)`. -/
  | now : Op (Int × Int)
  | newCardToken : Op String
  | getByUserAndEncryptedCard (userId encryptedCardNum : String) : Op (Option String)
  | getOrCreateUser (userId : String) : Op Unit
  | saveCardWithToken (userId encryptedCardNum cvcHmac : String) (expMonth expYear : Int)
      (cardToken : String) : Op Unit

def lastFour (cardNumber : String) : String :=
  String.ofList (cardNumber.toList.drop (cardNumber.toList.length - 4))

namespace VerifyAndTokenizeCardService

def execute (encryptor : MockCardEncryptor) (command : VerifyAndTokenizeCardCommand) :
    Program Op PyError VerifyAndTokenizeCardResult := do
  let now ← .perform .now
  if ¬(← .done (MockCardValidator.validateCard now command.cardNumber command.expiry command.cvc)) then
    throw (.valueError "invalid_card")
  else
    let encryptedCardNum := encryptor.encryptCardNumber command.cardNumber
    match ← .perform (.getByUserAndEncryptedCard command.userId encryptedCardNum) with
    | some cardToken => return ⟨cardToken, lastFour command.cardNumber⟩
    | none =>
        let cardToken ← .perform .newCardToken
        .perform (.getOrCreateUser command.userId)
        let (expYear, expMonth) ← .done (readExpiry command.expiry)
        .perform (.saveCardWithToken command.userId encryptedCardNum (encryptor.hashCvc command.cvc)
          expMonth expYear cardToken)
        return ⟨cardToken, lastFour command.cardNumber⟩

/-- What a result says of the card's number. -/
def OfCard (cardNumber : String) (r : Except PyError VerifyAndTokenizeCardResult) : Prop :=
  ∀ result, r = .ok result → cardNumber.toList.length = 16 ∧
    (∀ c ∈ cardNumber.toList, isDigit c = true) ∧ result.lastFour = lastFour cardNumber

theorem ofCard_error (cardNumber : String) (e : PyError) : OfCard cardNumber (.error e) := by
  intro result h
  cases h

/-- A new card and a known one are answered with the same four characters. -/
theorem execute_ends (encryptor : MockCardEncryptor) (command : VerifyAndTokenizeCardCommand) :
    (execute encryptor command).Ends (OfCard command.cardNumber) := by
  have hraises := ofCard_error command.cardNumber
  apply Program.Ends.bind
  intro now
  cases now with
  | error e => exact hraises e
  | ok now =>
      apply Program.Ends.bind
      cases hvalid : MockCardValidator.validateCard now command.cardNumber command.expiry
        command.cvc with
      | error e => exact hraises e
      | ok valid =>
          cases valid with
          | false => exact hraises _
          | true =>
              have hreturns (cardToken : String) :
                  OfCard command.cardNumber (.ok ⟨cardToken, lastFour command.cardNumber⟩) := by
                obtain ⟨hlength, hdigits⟩ := MockCardValidator.validateCard_eq_true hvalid
                intro result h
                cases h
                exact ⟨hlength, hdigits, rfl⟩
              apply Program.Ends.bind
              intro found
              cases found with
              | error e => exact hraises e
              | ok found =>
                  cases found with
                  | some cardToken => exact hreturns cardToken
                  | none =>
                      apply Program.Ends.bind
                      intro cardToken
                      cases cardToken with
                      | error e => exact hraises e
                      | ok cardToken =>
                          apply Program.Ends.bind
                          intro user
                          cases user with
                          | error e => exact hraises e
                          | ok user =>
                              apply Program.Ends.bind
                              cases readExpiry command.expiry with
                              | error e => exact hraises e
                              | ok expiry =>
                                  apply Program.Ends.bind
                                  intro saved
                                  cases saved with
                                  | error e => exact hraises e
                                  | ok saved => exact hreturns cardToken

theorem ends_known {encryptor : MockCardEncryptor} {command : VerifyAndTokenizeCardCommand}
    {Φ : Except PyError VerifyAndTokenizeCardResult → Prop} {now : Int × Int}
    (h : (execute encryptor command).Ends Φ)
    (hvalid : MockCardValidator.validateCard now command.cardNumber command.expiry command.cvc =
      .ok true) (cardToken : String) : Φ (.ok ⟨cardToken, lastFour command.cardNumber⟩) := by
  have hfound := h (.ok now)
  simp only [hvalid, Program.bind_eq, Program.bind, not_true_eq_false, if_false] at hfound
  exact hfound (.ok (some cardToken))

end VerifyAndTokenizeCardService

/-! ## Three notions of a digit -/

theorem isDecimal_of_ascii {c : Char} (h : c.toNat < 128) :
    PyInt.isDecimal c = true ↔ 48 ≤ c.toNat ∧ c.toNat ≤ 57 := by
  have hzeros : PyInt.decimalZeros.all (128 ≤ ·) = true := by decide
  have hnone : (PyInt.decimalZeros.any fun z => z ≤ c.toNat ∧ c.toNat < z + 10) = false := by
    rw [List.any_eq_false]
    intro z hz hc
    have hle := of_decide_eq_true (List.all_eq_true.mp hzeros z hz)
    have hc := of_decide_eq_true hc
    omega
  simp only [PyInt.isDecimal, hnone, Bool.or_false, decide_eq_true_eq]

theorem isDigit_of_ascii {c : Char} (h : c.toNat < 128) :
    isDigit c = true ↔ 48 ≤ c.toNat ∧ c.toNat ≤ 57 := by
  have hruns : otherDigits.all (fun run => 128 ≤ run.1) = true := by decide
  have hnone : (otherDigits.any fun run => run.1 ≤ c.toNat ∧ c.toNat ≤ run.2) = false := by
    rw [List.any_eq_false]
    intro run hrun hc
    have hle := of_decide_eq_true (List.all_eq_true.mp hruns run hrun)
    have hc := of_decide_eq_true hc
    omega
  rw [isDigit, hnone, Bool.or_false, isDecimal_of_ascii h]

/-- `card_last_four ~ '^[0-9]{4}$'` -/
def ckCardLastFour (text : String) : Bool := text.length = 4 && Base.asciiDigits text

/-- Of a known car and a key of its own, the insertion is refused exactly when the check fails,
or already for a text that is longer than the column. -/
theorem upsertBillingKey_check {s : Base} {order : CardOrder} {billingKey text : String}
    (hcar : (Store.get? Vehicle.carId order.carId s.vehicles).isSome)
    (hkey : (s.billingKeys.any fun r => r.carId ≠ order.carId && r.billingKey = billingKey) = false) :
    (∃ e, s.upsertBillingKey order billingKey text = .error e) ↔ ckCardLastFour text = false := by
  obtain ⟨v, hv⟩ := Option.isSome_iff_exists.mp hcar
  unfold Base.upsertBillingKey
  simp only [hv, hkey, Option.isNone_some, Bool.false_eq_true, if_false]
  by_cases hcheck : text.length = 4 ∧ Base.asciiDigits text = true
  · rw [if_neg (not_not.mpr hcheck), if_neg (by omega)]
    cases Store.get? VehicleBillingKey.carId order.carId s.billingKeys <;>
      simp [ckCardLastFour, hcheck.1, hcheck.2]
  · have hfails : ckCardLastFour text = false := by simpa [ckCardLastFour] using hcheck
    rw [if_pos hcheck]
    refine iff_of_true ?_ hfails
    split
    · exact ⟨_, rfl⟩
    · exact ⟨_, rfl⟩

open HandleCardWebhookService (isCardLastFour)

theorem ckCardLastFour_iff {text : String} : ckCardLastFour text = true ↔
    text.toList.length = 4 ∧ ∀ c ∈ text.toList, 48 ≤ c.toNat ∧ c.toNat ≤ 57 := by
  simp [ckCardLastFour, Base.asciiDigits, String.length_toList]

theorem isCardLastFour_iff {text : String} : isCardLastFour text = true ↔
    (dropFinalNewline text.toList).length = 4 ∧
      ∀ c ∈ dropFinalNewline text.toList, PyInt.isDecimal c = true := by
  simp [isCardLastFour]

theorem dropFinalNewline_eq {cs : List Char} (h : cs.getLast? ≠ some '\n') :
    dropFinalNewline cs = cs := if_neg h

/-- What the webhook accepts passes the check when it is ASCII and no newline ends it. -/
theorem ckCardLastFour_of_isCardLastFour {text : String} (h : isCardLastFour text = true) :
    ckCardLastFour text = true ↔ isascii text = true ∧ text.toList.getLast? ≠ some '\n' := by
  rw [ckCardLastFour_iff, isascii_iff]
  constructor
  · rintro ⟨-, hdigits⟩
    refine ⟨fun c hc => by have := hdigits c hc; omega, fun hlast => ?_⟩
    have hnewline := hdigits '\n' (List.mem_of_getLast? hlast)
    exact absurd hnewline (by decide)
  · rintro ⟨hascii, hlast⟩
    obtain ⟨hlength, hdecimal⟩ := isCardLastFour_iff.mp h
    rw [dropFinalNewline_eq hlast] at hlength hdecimal
    exact ⟨hlength, fun c hc => (isDecimal_of_ascii (hascii c hc)).mp (hdecimal c hc)⟩

/-- Four digits of the card service pass the other two when they are ASCII. -/
theorem accepted_iff_ascii {text : String} (hlength : text.toList.length = 4)
    (hdigits : ∀ c ∈ text.toList, isDigit c = true) :
    isCardLastFour text = true ∧ ckCardLastFour text = true ↔ isascii text = true := by
  constructor
  · rintro ⟨haccepted, hcheck⟩
    exact ((ckCardLastFour_of_isCardLastFour haccepted).mp hcheck).1
  · intro hascii
    rw [isascii_iff] at hascii
    have hplain : ∀ c ∈ text.toList, 48 ≤ c.toNat ∧ c.toNat ≤ 57 := fun c hc =>
      (isDigit_of_ascii (hascii c hc)).mp (hdigits c hc)
    have hlast : text.toList.getLast? ≠ some '\n' := fun hlast =>
      absurd (hplain '\n' (List.mem_of_getLast? hlast)) (by decide)
    constructor
    · rw [isCardLastFour_iff, dropFinalNewline_eq hlast]
      exact ⟨hlength, fun c hc => (isDecimal_of_ascii (hascii c hc)).mpr (hplain c hc)⟩
    · exact ckCardLastFour_iff.mpr ⟨hlength, hplain⟩

/-- A card that is verified passes the webhook and the check if its last four digits are ASCII and
not otherwise, and what the webhook accepts passes the check if it is ASCII without a newline at
its end and not otherwise. -/
theorem card_chain_agrees (encryptor : MockCardEncryptor) :
    (∀ command, (VerifyAndTokenizeCardService.execute encryptor command).Ends fun r =>
      ∀ result, r = .ok result →
        (isCardLastFour result.lastFour = true ∧ ckCardLastFour result.lastFour = true ↔
          isascii (lastFour command.cardNumber) = true)) ∧
    ∀ text, isCardLastFour text = true →
      (ckCardLastFour text = true ↔ isascii text = true ∧ text.toList.getLast? ≠ some '\n') := by
  refine ⟨fun command => ?_, fun text h => ckCardLastFour_of_isCardLastFour h⟩
  apply (VerifyAndTokenizeCardService.execute_ends encryptor command).mono
  intro r hr result hresult
  obtain ⟨hlength, hdigits, hlast⟩ := hr result hresult
  rw [hlast]
  apply accepted_iff_ascii
  · simp [lastFour, hlength]
  · intro c hc
    rw [lastFour, String.toList_ofList] at hc
    exact hdigits c (List.mem_of_mem_drop hc)

def plainEncryptor : MockCardEncryptor := ⟨id, id⟩

theorem card_chain_agrees_ascii :
    isCardLastFour "3456" = true ∧ ckCardLastFour "3456" = true := by
  let command : VerifyAndTokenizeCardCommand := ⟨"user-1", "1234567890123456", "12/29", "123"⟩
  have hvalid : MockCardValidator.validateCard (2025, 1) command.cardNumber command.expiry
      command.cvc = .ok true := by decide +kernel
  have hends := (card_chain_agrees plainEncryptor).1 command
  have hlast : lastFour command.cardNumber = "3456" := by decide +kernel
  have hiff := VerifyAndTokenizeCardService.ends_known hends hvalid "card-token-1" _ rfl
  rw [hlast] at hiff
  exact hiff.mpr (by decide)

/-- The webhook refuses a superscript two, which the card service accepts, and accepts fullwidth
digits and a newline at the end, which the check refuses. -/
theorem card_chain_disagrees :
    (∃ command, ¬(VerifyAndTokenizeCardService.execute plainEncryptor command).Ends fun r =>
      ∀ result, r = .ok result → isCardLastFour result.lastFour = true) ∧
    (isCardLastFour "１２３４" = true ∧ ckCardLastFour "１２３４" = false) ∧
    isCardLastFour "1234\n" = true ∧ ckCardLastFour "1234\n" = false := by
  refine ⟨⟨⟨"user-1", "123456789012345²", "12/29", "123"⟩, fun hends => ?_⟩, by decide +kernel,
    by decide +kernel⟩
  have hvalid : MockCardValidator.validateCard (2025, 1) "123456789012345²" "12/29" "123" =
      .ok true := by decide +kernel
  have haccepted := VerifyAndTokenizeCardService.ends_known hends hvalid "card-token-1" _ rfl
  revert haccepted
  decide +kernel

end CarPayIn.MockCard
