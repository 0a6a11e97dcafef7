/-!
# Error types of the service

The numbered errors that the cloud and the heaters report.
-/

namespace HeaterLink

inductive ErrorType where
  | invalidSignature
  | signupInvalidParams
  | signupDuplicateUser
  | invalidLoginParameters
  | badLoginOrPassword
  | badRemoteServiceReply
  | invalidSignatureData
  | passwordResetTimeExpired
  | connectionTimeout
  | heatingModeInUse
  | heatingModeIsFixed
  | unregisteredHeatingMode
  | heaterRegisteredToOtherUser
  | unregisteredHeater
  | notOwnedHeater
  | invalidZone
  | objectMappingError
  | sqlError
  | unexpectedState
  | offlineHeaterNotFound
  | deviceCommandCancelled
  | scheduleInUse
  | unregisteredSchedule
  | unknownHeaterCommand
  | firmwareUpdateFailed
  | deviceBusy
  | invalidParam
  | invalidWifiPassword
  | httpNotAcceptable
  | httpInternalServerError
  | httpForbidden
  | httpBadRequest
  | httpServiceNotAvailable
deriving DecidableEq, Repr

namespace ErrorType

def all : List ErrorType :=
  [.invalidSignature, .signupInvalidParams, .signupDuplicateUser, .invalidLoginParameters,
   .badLoginOrPassword, .badRemoteServiceReply, .invalidSignatureData, .passwordResetTimeExpired,
   .connectionTimeout, .heatingModeInUse, .heatingModeIsFixed, .unregisteredHeatingMode,
   .heaterRegisteredToOtherUser, .unregisteredHeater, .notOwnedHeater, .invalidZone,
   .objectMappingError, .sqlError, .unexpectedState, .offlineHeaterNotFound,
   .deviceCommandCancelled, .scheduleInUse, .unregisteredSchedule, .unknownHeaterCommand,
   .firmwareUpdateFailed, .deviceBusy, .invalidParam, .invalidWifiPassword, .httpNotAcceptable,
   .httpInternalServerError, .httpForbidden, .httpBadRequest, .httpServiceNotAvailable]

def code : ErrorType → Int64
  | invalidSignature => 10001
  | signupInvalidParams => 10002
  | signupDuplicateUser => 10003
  | invalidLoginParameters => 10004
  | badLoginOrPassword => 10005
  | badRemoteServiceReply => 10006
  | invalidSignatureData => 10007
  | passwordResetTimeExpired => 10008
  | connectionTimeout => 10009
  | heatingModeInUse => 20001
  | heatingModeIsFixed => 20002
  | unregisteredHeatingMode => 20003
  | heaterRegisteredToOtherUser => 30001
  | unregisteredHeater => 30002
  | notOwnedHeater => 30003
  | invalidZone => 40001
  | objectMappingError => 50001
  | sqlError => 50002
  | unexpectedState => 50003
  | offlineHeaterNotFound => 50004
  | deviceCommandCancelled => 50005
  | scheduleInUse => 60001
  | unregisteredSchedule => 60002
  | unknownHeaterCommand => 70001
  | firmwareUpdateFailed => 9001
  | deviceBusy => 9002
  | invalidParam => 9003
  | invalidWifiPassword => 9004
  | httpNotAcceptable => 406
  | httpInternalServerError => 500
  | httpForbidden => 403
  | httpBadRequest => 400
  | httpServiceNotAvailable => 503

def name : ErrorType → String
  | invalidSignature => "InvalidSignature"
  | signupInvalidParams => "SignupInvalidParams"
  | signupDuplicateUser => "SignupDuplicateUser"
  | invalidLoginParameters => "InvalidLoginParameters"
  | badLoginOrPassword => "BadLoginOrPassword"
  | badRemoteServiceReply => "BadRemoteServiceReply"
  | invalidSignatureData => "InvalidSignatureData"
  | passwordResetTimeExpired => "PasswordResetTimeExpired"
  | connectionTimeout => "ConnectionTimeout"
  | heatingModeInUse => "HeatingModeInUse"
  | heatingModeIsFixed => "HeatingModeIsFixed"
  | unregisteredHeatingMode => "UnregisteredHeatingMode"
  | heaterRegisteredToOtherUser => "HeaterRegisteredToOtherUser"
  | unregisteredHeater => "UnregisteredHeater"
  | notOwnedHeater => "NotOwnedHeater"
  | invalidZone => "InvalidZone"
  | objectMappingError => "ObjectMappingError"
  | sqlError => "SqlError"
  | unexpectedState => "UnexpectedState"
  | offlineHeaterNotFound => "OfflineHeaterNotFound"
  | deviceCommandCancelled => "DeviceCommandCancelled"
  | scheduleInUse => "ScheduleInUse"
  | unregisteredSchedule => "UnregisteredSchedule"
  | unknownHeaterCommand => "UnknownHeaterCommand"
  | firmwareUpdateFailed => "FirmwareUpdateFailed"
  | deviceBusy => "DeviceBusy"
  | invalidParam => "InvalidParam"
  | invalidWifiPassword => "InvalidWifiPassword"
  | httpNotAcceptable => "HttpNotAcceptable"
  | httpInternalServerError => "HttpInternalServerError"
  | httpForbidden => "HttpForbidden"
  | httpBadRequest => "HttpBadRequest"
  | httpServiceNotAvailable => "HttpServiceNotAvailable"

def ofCode? (code : Int64) : Option ErrorType := all.find? fun e => e.code == code

end ErrorType

end HeaterLink
