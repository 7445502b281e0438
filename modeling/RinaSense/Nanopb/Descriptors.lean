import RinaSense.Nanopb.Message

/-!
# The messages of the program

The field lists of the generated headers. The size of a byte string counts its length field, which
has two bytes.
-/

namespace RinaSense

/-! ## CDAP -/

/-- `rina_messages_objVal_t`. -/
def objValFields : PbMsgdesc :=
  .field 1 .optional .int32 <|
  .field 2 .optional .sint32 <|
  .field 3 .optional .int64 <|
  .field 4 .optional .sint64 <|
  .field 5 .optional (.string 20) <|
  .field 6 .optional (.bytes 1026) <|
  .field 7 .optional .fixed32 <|
  .field 8 .optional .fixed64 <|
  .field 9 .optional .bool .nil

/-- `rina_messages_authPolicy_t`. -/
def authPolicyFields : PbMsgdesc :=
  .field 1 .optional (.string 40) <|
  .field 2 (.repeated 1) (.string 40) <|
  .callback 3 .nil

/-- `rina_messages_CDAPMessage`. -/
def cdapMessageFields : PbMsgdesc :=
  .field 1 .optional .int32 <|
  .field 2 .required .uint32 <|
  .field 3 .optional .int32 <|
  .field 4 .optional .uint32 <|
  .field 5 .optional (.string 40) <|
  .field 6 .optional (.string 40) <|
  .field 7 .optional .int64 <|
  .submessage 8 .optional objValFields <|
  .field 9 .optional .int32 <|
  .field 10 .optional .int32 <|
  .callback 11 <|
  .submessage 18 .optional authPolicyFields <|
  .field 19 .optional (.string 20) <|
  .field 20 .optional (.string 20) <|
  .field 21 .optional (.string 20) <|
  .field 22 .optional (.string 20) <|
  .field 23 .optional (.string 20) <|
  .field 24 .optional (.string 20) <|
  .field 25 .optional (.string 20) <|
  .field 26 .optional (.string 20) <|
  .field 27 .optional (.string 20) <|
  .field 28 .optional .int64 .nil

/-! ## Enrollment -/

/-- `rina_messages_enrollmentInformation_t`. -/
def enrollmentInformationFields : PbMsgdesc :=
  .field 1 .optional .uint64 <|
  .field 2 (.repeated 1) (.string 20) <|
  .field 3 .optional .bool <|
  .field 4 .optional (.string 20) .nil

/-- `rina_messages_neighbor_t`. -/
def neighborFields : PbMsgdesc :=
  .field 1 .optional (.string 20) <|
  .field 2 .optional (.string 20) <|
  .field 3 .optional (.string 20) <|
  .field 4 .optional (.string 20) <|
  .field 5 .optional .uint64 <|
  .field 6 (.repeated 1) (.string 20) .nil

/-- `rina_messages_a_data_t`. -/
def aDataFields : PbMsgdesc :=
  .field 1 .optional .int32 <|
  .field 2 .optional .int32 <|
  .field 3 .optional (.bytes 514) .nil

/-! ## Flows -/

/-- `rina_messages_applicationProcessNamingInfo_t`. -/
def applicationProcessNamingInfoFields : PbMsgdesc :=
  .field 1 .required (.string 20) <|
  .field 2 .optional (.string 20) <|
  .field 3 .optional (.string 20) <|
  .field 4 .optional (.string 20) .nil

/-- `rina_messages_connectionId_t`. -/
def connectionIdFields : PbMsgdesc :=
  .field 1 .optional .uint32 <|
  .field 2 .optional .uint32 <|
  .field 3 .optional .uint32 .nil

/-- `rina_messages_qosSpecification_t`. -/
def qosSpecificationFields : PbMsgdesc :=
  .field 1 .optional (.string 20) <|
  .field 2 .optional .uint32 <|
  .field 3 .optional .uint64 <|
  .field 4 .optional .uint64 <|
  .field 5 .optional .uint32 <|
  .field 6 .optional .uint32 <|
  .field 7 .optional .fixed64 <|
  .field 8 .optional .bool <|
  .field 9 .optional .bool <|
  .field 10 .optional .int32 <|
  .field 11 .optional .uint32 <|
  .field 12 .optional .uint32 <|
  .callback 13 <|
  .field 14 .optional .bool <|
  .field 15 .optional .uint32 .nil

/-- `rina_messages_policyDescriptor_t`. -/
def policyDescriptorFields : PbMsgdesc :=
  .field 1 .optional (.string 20) <|
  .field 2 .optional (.string 20) <|
  .field 3 .optional (.string 20) <|
  .callback 4 .nil

/-- `rina_messages_dtpConfig_t`. -/
def dtpConfigFields : PbMsgdesc :=
  .field 1 .optional .bool <|
  .submessage 3 .optional policyDescriptorFields <|
  .submessage 4 .optional policyDescriptorFields <|
  .submessage 5 .optional policyDescriptorFields <|
  .field 6 .optional .uint64 <|
  .field 7 .optional .uint32 <|
  .submessage 8 .optional policyDescriptorFields .nil

/-- `rina_messages_dtcpWindowBasedFlowControlConfig_t`. -/
def dtcpWindowBasedFlowControlConfigFields : PbMsgdesc :=
  .field 1 .optional .uint64 <|
  .field 2 .optional .uint64 <|
  .submessage 3 .optional policyDescriptorFields <|
  .submessage 4 .optional policyDescriptorFields .nil

/-- `rina_messages_dtcpRateBasedFlowControlConfig_t`. -/
def dtcpRateBasedFlowControlConfigFields : PbMsgdesc :=
  .field 1 .optional .uint64 <|
  .field 2 .optional .uint64 <|
  .submessage 3 .optional policyDescriptorFields <|
  .submessage 4 .optional policyDescriptorFields <|
  .submessage 5 .optional policyDescriptorFields .nil

/-- `rina_messages_dtcpFlowControlConfig_t`. -/
def dtcpFlowControlConfigFields : PbMsgdesc :=
  .field 1 .optional .bool <|
  .submessage 2 .optional dtcpWindowBasedFlowControlConfigFields <|
  .field 3 .optional .bool <|
  .submessage 4 .optional dtcpRateBasedFlowControlConfigFields <|
  .field 5 .optional .uint64 <|
  .field 6 .optional .uint64 <|
  .field 7 .optional .uint64 <|
  .field 8 .optional .uint64 <|
  .field 9 .optional .uint64 <|
  .field 10 .optional .uint64 <|
  .submessage 11 .optional policyDescriptorFields <|
  .submessage 12 .optional policyDescriptorFields <|
  .submessage 13 .optional policyDescriptorFields <|
  .submessage 14 .optional policyDescriptorFields .nil

/-- `rina_messages_dtcpRtxControlConfig_t`. -/
def dtcpRtxControlConfigFields : PbMsgdesc :=
  .field 1 .optional .uint32 <|
  .field 2 .optional .uint32 <|
  .submessage 3 .optional policyDescriptorFields <|
  .submessage 4 .optional policyDescriptorFields <|
  .submessage 5 .optional policyDescriptorFields <|
  .submessage 6 .optional policyDescriptorFields <|
  .submessage 7 .optional policyDescriptorFields <|
  .submessage 8 .optional policyDescriptorFields <|
  .field 9 .optional .uint32 .nil

/-- `rina_messages_dtcpConfig_t`. -/
def dtcpConfigFields : PbMsgdesc :=
  .field 1 .optional .bool <|
  .submessage 2 .optional dtcpFlowControlConfigFields <|
  .field 3 .optional .bool <|
  .submessage 4 .optional dtcpRtxControlConfigFields <|
  .submessage 5 .optional policyDescriptorFields <|
  .submessage 6 .optional policyDescriptorFields <|
  .submessage 7 .optional policyDescriptorFields .nil

/-- `rina_messages_Flow`. -/
def flowFields : PbMsgdesc :=
  .submessage 1 .required applicationProcessNamingInfoFields <|
  .submessage 2 .required applicationProcessNamingInfoFields <|
  .field 3 .required .uint64 <|
  .field 4 .optional .uint64 <|
  .field 5 .required .uint64 <|
  .field 6 .optional .uint64 <|
  .submessage 7 (.repeated 1) connectionIdFields <|
  .field 8 .optional .uint32 <|
  .field 9 .optional .uint32 <|
  .submessage 10 .optional qosSpecificationFields <|
  .submessage 12 .optional dtpConfigFields <|
  .submessage 13 .optional dtcpConfigFields <|
  .callback 14 <|
  .field 15 .optional .uint32 <|
  .field 16 .optional .uint32 <|
  .field 17 .optional .uint32 .nil

/-! ## Well-formed descriptors -/

theorem cdapMessageFields_wellFormed : cdapMessageFields.WellFormed := by decide

theorem enrollmentInformationFields_wellFormed : enrollmentInformationFields.WellFormed := by decide

theorem neighborFields_wellFormed : neighborFields.WellFormed := by decide

theorem aDataFields_wellFormed : aDataFields.WellFormed := by decide

theorem flowFields_wellFormed : flowFields.WellFormed := by decide

end RinaSense
