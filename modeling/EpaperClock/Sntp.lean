import EpaperClock.RtcRoundTrip

/-! The clock-setting end of the SNTP client, `lwip/src/apps/sntp/sntp.c`.

`lwipopts.h` leaves `SNTP_CHECK_RESPONSE` and `SNTP_COMP_ROUNDTRIP` at 0 and does not
define `SNTP_SET_SYSTEM_TIME`, so only the transmit seconds of a reply are used. -/
namespace EpaperClock

/-- Seconds between 1970 and Feb 7, 2036 06:28:16 UTC (epoch 1). -/
abbrev diffSec1970To2036 : UInt32 := 2085978496

/-- The Unix time of a reply, `(u32_t)sec + DIFF_SEC_1970_2036` with `sec` signed. -/
def internetTime (xmitSec : UInt32) : UInt32 := xmitSec.toInt32.toUInt32 + diffSec1970To2036

/-- `sntp_process`; `xmitSec` is `lwip_ntohl(timestamps->xmit.sec)`. -/
def sntpProcess (xmitSec : UInt32) (rtc : Rtc) : Rtc :=
  let rtc := rtcStopTimer rtc
  let date := datetimeOfSeconds (internetTime xmitSec)
  -- a status other than `kStatusSuccess` is only logged
  let rtc := (rtcSetDatetime rtc date).2
  rtcStartTimer rtc

/-- The reply's date passes the check in `rtcSetDatetime`. -/
def sntpAccepts (xmitSec : UInt32) : Bool :=
  (rtcSetDatetime ⟨0, false⟩ (datetimeOfSeconds (internetTime xmitSec))).1 = .kStatusSuccess

@[simp] theorem internetTime_eq (xmitSec : UInt32) :
    internetTime xmitSec = xmitSec + diffSec1970To2036 := by
  simp [internetTime]

theorem sntpAccepts_iff (xmitSec : UInt32) :
    sntpAccepts xmitSec = true ↔ internetTime xmitSec < 4102444800 := by
  rw [← rtcCheckDatetimeFormat_datetimeOfSeconds]
  simp only [sntpAccepts, rtcSetDatetime]
  split <;> simp_all

/-- What one reply does to the peripheral, for every prior state of it. -/
theorem sntpProcess_eq (xmitSec : UInt32) (rtc : Rtc) :
    sntpProcess xmitSec rtc =
      ⟨if sntpAccepts xmitSec then internetTime xmitSec else rtc.tsr, true⟩ := by
  cases valid : rtcCheckDatetimeFormat (datetimeOfSeconds (internetTime xmitSec)) <;>
    simp [sntpProcess, sntpAccepts, rtcSetDatetime, rtcStopTimer, rtcStartTimer, Rtc.writeTsr,
      valid, -internetTime_eq]

end EpaperClock
