import Mathlib.Logic.Basic

/-!
# Static visibility rules

The tables of `store/visibility/rules.py`. Dictionaries are lists in the order of the source, and
sets are lists. The models keep the case of the source: the tables in lower case are made of them
where they are used.
-/

namespace AioHomematic.Store.Visibility

def relevantMasterParamsetsByChannel : List (Option Int × List String) :=
  [(none, ["GLOBAL_BUTTON_LOCK", "LOW_BAT_LIMIT"]),
    (some 0, ["GLOBAL_BUTTON_LOCK", "LOW_BAT_LIMIT"])]

def climateMasterParameters : List String :=
  ["HEATING_VALVE_TYPE", "MIN_MAX_VALUE_NOT_RELEVANT_FOR_MANU_MODE", "OPTIMUM_START_STOP",
    "TEMPERATURE_MAXIMUM", "TEMPERATURE_MINIMUM", "TEMPERATURE_OFFSET", "WEEK_PROGRAM_POINTER"]

/-- `range(1, n + 1)`. -/
def channelRange (n : Nat) : List (Option Int) :=
  (List.range n).map fun i : Nat => some ((i : Int) + 1)

/-- The channels of a model and the parameters that are relevant on them. -/
def relevantMasterParamsetsByDevice : List (String × List (Option Int) × List String) :=
  [("ALPHA-IP-RBG", [some 1], climateMasterParameters),
    ("ELV-SH-TACO", [some 2], ["CHANNEL_OPERATION_MODE"]),
    ("HM-CC-RT-DN", [none], climateMasterParameters),
    ("HM-CC-VG-1", [none], climateMasterParameters),
    ("HM-TC-IT-WM-W-EU", [none], climateMasterParameters),
    ("HmIP-BWTH", [some 1, some 8], climateMasterParameters),
    ("HmIP-DRBLI4",
      [some 1, some 2, some 3, some 4, some 5, some 6, some 7, some 8, some 9, some 13, some 17,
        some 21],
      ["CHANNEL_OPERATION_MODE"]),
    ("HmIP-DRDI3", [some 1, some 2, some 3], ["CHANNEL_OPERATION_MODE"]),
    ("HmIP-DRSI1", [some 1], ["CHANNEL_OPERATION_MODE"]),
    ("HmIP-DRSI4", [some 1, some 2, some 3, some 4], ["CHANNEL_OPERATION_MODE"]),
    ("HmIP-DSD-PCB", [some 1], ["CHANNEL_OPERATION_MODE"]),
    ("HmIP-FCI1", [some 1], ["CHANNEL_OPERATION_MODE"]),
    ("HmIP-FCI6", [some 1, some 2, some 3, some 4, some 5, some 6], ["CHANNEL_OPERATION_MODE"]),
    ("HmIP-FSI16", [some 1], ["CHANNEL_OPERATION_MODE"]),
    ("HmIP-FSI6", [some 1], ["CHANNEL_OPERATION_MODE"]),
    ("HmIP-HEATING", [some 1], climateMasterParameters),
    ("HmIP-MIO16-PCB", [some 13, some 14, some 15, some 16], ["CHANNEL_OPERATION_MODE"]),
    ("HmIP-MOD-RC8", channelRange 8, ["CHANNEL_OPERATION_MODE"]),
    ("HmIP-RGBW", [some 0], ["DEVICE_OPERATION_MODE"]),
    ("HmIP-STH", [some 1], climateMasterParameters),
    ("HmIP-WGT", [some 8, some 14], climateMasterParameters),
    ("HmIP-WTH", [some 1], climateMasterParameters),
    ("HmIP-eTRV", [some 1], climateMasterParameters),
    ("HmIPW-DRBL4", [some 1, some 5, some 9, some 13], ["CHANNEL_OPERATION_MODE"]),
    ("HmIPW-DRI16", channelRange 16, ["CHANNEL_OPERATION_MODE"]),
    ("HmIPW-DRI32", channelRange 32, ["CHANNEL_OPERATION_MODE"]),
    ("HmIPW-FIO6", [some 1, some 2, some 3, some 4, some 5, some 6], ["CHANNEL_OPERATION_MODE"]),
    ("HmIPW-STH", [some 1], climateMasterParameters)]

def ignoreDevicesForDataPointEvents : List (String × List String) :=
  [("HmIP-PS", ["PRESS", "PRESS_CONT", "PRESS_LOCK", "PRESS_LONG", "PRESS_LONG_RELEASE",
      "PRESS_LONG_START", "PRESS_SHORT", "PRESS_UNLOCK"])]

def hiddenParameters : List String :=
  ["ACTIVITY_STATE", "CHANNEL_OPERATION_MODE", "CONFIG_PENDING", "DIRECTION", "ERROR",
    "HEATING_VALVE_TYPE", "LOW_BAT_LIMIT", "MIN_MAX_VALUE_NOT_RELEVANT_FOR_MANU_MODE",
    "OPTIMUM_START_STOP", "SECTION", "STICKY_UNREACH", "TEMPERATURE_MAXIMUM",
    "TEMPERATURE_MINIMUM", "TEMPERATURE_OFFSET", "UNREACH", "UPDATE_PENDING", "WORKING"]

def ignoredParameters : List String :=
  ["ACCESS_AUTHORIZATION", "ADAPTION_DRIVE", "AES_KEY", "ALARM_COUNT", "ALL_LEDS", "ARROW_DOWN",
    "ARROW_UP", "BACKLIGHT", "BEEP", "BELL", "BLIND", "BOOST_STATE", "BOOST_TIME", "BOOT",
    "BOOTED", "BULB", "CLEAR_ERROR", "CLEAR_WINDOW_OPEN_SYMBOL", "CLOCK", "CMD_RETL", "CMD_RETS",
    "CONTROL_DIFFERENTIAL_TEMPERATURE", "DATE_TIME_UNKNOWN", "DECISION_VALUE",
    "DEVICE_IN_BOOTLOADER", "DOOR", "EXTERNAL_CLOCK", "FROST_PROTECTION", "HUMIDITY_LIMITER",
    "IDENTIFICATION_MODE_KEY_VISUAL", "IDENTIFICATION_MODE_LCD_BACKLIGHT",
    "INCLUSION_UNSUPPORTED_DEVICE", "INHIBIT", "INSTALL_MODE", "OLD_LEVEL", "OVERFLOW", "OVERRUN",
    "PARTY_SET_POINT_TEMPERATURE", "PARTY_TEMPERATURE", "PARTY_TIME_END", "PARTY_TIME_START",
    "PHONE", "PROCESS", "QUICK_VETO_TIME", "RAMP_STOP", "RELOCK_DELAY", "SCENE",
    "SELF_CALIBRATION", "SERVICE_COUNT", "SET_SYMBOL_FOR_HEATING_PHASE", "SHADING_SPEED",
    "SHEV_POS", "SPEED", "STATE_UNCERTAIN", "SUBMIT", "SWITCH_POINT_OCCURED",
    "TEMPERATURE_LIMITER", "TEMPERATURE_OUT_OF_RANGE", "TEXT", "USER_COLOR", "USER_PROGRAM",
    "VALVE_ADAPTION", "WEEK_PROGRAM_POINTER", "WINDOW", "WIN_RELEASE", "WIN_RELEASE_ACT"]

def ignoredParametersEnd : List String :=
  ["_OVERFLOW", "_OVERRUN", "_REPORTING", "_RESULT", "_STATUS", "_SUBMIT"]

def ignoredParametersStart : List String :=
  ["ADJUSTING_", "ERR_TTM_", "HANDLE_", "IDENTIFY_", "PARTY_START_", "PARTY_STOP_", "STATUS_FLAG_"]

def unIgnoreParametersByDevice : List (String × List String) :=
  [("HmIP-DLD", ["ACCESS_AUTHORIZATION", "ERROR_JAMMED"]),
    ("HmIP-DLP", ["ERROR_JAMMED"]),
    ("HmIP-FWI", ["ACCESS_AUTHORIZATION"]),
    ("HmIP-SWSD", ["DIRT_LEVEL", "SMOKE_DETECTOR_ALARM_STATUS", "SMOKE_LEVEL"]),
    ("HmIP-WRCD", ["DISPLAY_DATA_COMMIT", "DISPLAY_DATA_ID", "DISPLAY_DATA_STRING", "INTERVAL"]),
    ("HM-OU-LED16", ["LED_STATUS"]),
    ("HM-Sec-Win", ["DIRECTION", "ERROR", "STATUS", "WORKING"]),
    ("HM-Sec-Key", ["DIRECTION", "ERROR"]),
    ("HmIP-PCBS-BAT", ["LOW_BAT", "OPERATING_VOLTAGE"]),
    ("BC-RT-TRX-CyG", ["WEEK_PROGRAM_POINTER"]),
    ("BC-RT-TRX-CyN", ["WEEK_PROGRAM_POINTER"]),
    ("BC-TC-C-WM", ["WEEK_PROGRAM_POINTER"]),
    ("HM-CC-RT-DN", ["WEEK_PROGRAM_POINTER"]),
    ("HM-CC-VG-1", ["WEEK_PROGRAM_POINTER"]),
    ("HM-TC-IT-WM-W-EU", ["WEEK_PROGRAM_POINTER"])]

def ignoreParametersByDevice : List (String × List String) :=
  [("CURRENT_ILLUMINATION", ["HmIP-SMI", "HmIP-SMO", "HmIP-SPI", "HmIP-UDI-SMI"]),
    ("LOWBAT",
      ["HM-LC-Sw1-DR", "HM-LC-Sw1-FM", "HM-LC-Sw1-PCB", "HM-LC-Sw1-Pl", "HM-LC-Sw1-Pl-DN-R1",
        "HM-LC-Sw1PBU-FM", "HM-LC-Sw2-FM", "HM-LC-Sw4-DR", "HM-SwI-3-FM"]),
    ("LOW_BAT", ["HmIP-BWTH", "HmIP-PCBS"]),
    ("OPERATING_VOLTAGE",
      ["ELV-SH-BS2", "HmIP-BDT", "HmIP-BROLL", "HmIP-BS2", "HmIP-BSL", "HmIP-BSM", "HmIP-BWTH",
        "HmIP-DR", "HmIP-FDT", "HmIP-FROLL", "HmIP-FS6", "HmIP-FSM", "HmIP-MOD-OC8",
        "HmIP-PCBS", "HmIP-PDT", "HmIP-PMFS", "HmIP-PS", "HmIP-SFD", "HmIP-SMO230", "HmIP-WGT",
        "HmIP-WRC6-230"]),
    ("VALVE_STATE", ["HmIP-FALMOT-C12", "HmIP-FALMOT-C8", "HmIPW-FALMOT-C12"])]

def acceptParameterOnlyOnChannel : List (String × Int) := [("LOWBAT", 0)]

end AioHomematic.Store.Visibility
