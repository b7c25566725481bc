import EnrollmentDiagnosis.RuleBook.Document

set_option autoImplicit false

namespace EnrollmentDiagnosis.RuleBook

/-- The library as a rules document. -/
def builtinText : String :=
"rules:
  - rule_id: ANALYZE-NET-001
    title: Proxy Authentication Required
    description: Detects HTTP 407 errors returned by an authenticating proxy during enrollment.
    severity: high
    category: network
    base_confidence: 50
    conditions:
      - signal: http_407_error
        source: event_type
        event_type: error_detected
        data_field: errorCode
        operator: contains
        value: \"407\"
        required: true
      - signal: proxy_configured
        source: event_type
        event_type: gather_proxy_settings
        data_field: ProxyEnable
        operator: equals
        value: \"1\"
    confidence_factors:
      - signal: proxy_configured
        condition: exists
        weight: 20
      - signal: enrollment_stalled
        condition: phase_duration > 300
        weight: 30
    explanation: >-
      The device hit an HTTP 407 (Proxy Authentication Required) response. Enrollment
      traffic runs in the system context, which cannot answer proxy authentication
      challenges, so Microsoft endpoints must bypass the authenticating proxy.
    remediation_steps:
      - title: Configure proxy bypass
        steps:
          - Add *.manage.microsoft.com to the proxy bypass list
          - Add *.microsoftonline.com to the proxy bypass list
          - Add enterpriseregistration.windows.net to the bypass list
      - title: Use a PAC file
        steps:
          - Create or update a PAC file that sends Microsoft endpoints direct
          - Deploy the PAC file via GPO or Intune
    related_docs:
      - title: Intune network requirements
        url: https://learn.microsoft.com/en-us/mem/intune/fundamentals/intune-endpoints
      - title: Autopilot networking requirements
        url: https://learn.microsoft.com/en-us/mem/autopilot/networking-requirements
    tags: [network, proxy]

  - rule_id: ANALYZE-NET-002
    title: DNS Resolution Failure
    description: Detects errors caused by failing name resolution.
    severity: high
    category: network
    base_confidence: 60
    conditions:
      - signal: dns_failure
        source: event_type
        event_type: error_detected
        data_field: message
        operator: regex
        value: \"DNS|name resolution|NXDOMAIN|could not resolve\"
        required: true
    explanation: >-
      The device could not resolve one or more enrollment endpoints. Without working
      DNS the device cannot reach Azure AD or Intune.
    remediation_steps:
      - title: Verify DNS configuration
        steps:
          - Check the DNS servers handed out by DHCP
          - Verify resolution of login.microsoftonline.com
          - Verify resolution of enterpriseregistration.windows.net
    tags: [network, dns]

  - rule_id: ANALYZE-NET-003
    title: SSL Inspection Breaking Enrollment
    description: Detects TLS interception of enrollment traffic.
    severity: high
    category: network
    base_confidence: 70
    conditions:
      - signal: ssl_inspection
        source: event_type
        event_type: cert_validation
        data_field: ssl_inspection_detected
        operator: equals
        value: \"true\"
        required: true
    explanation: >-
      A certificate in the enrollment chain was issued by an inspection proxy.
      Certificate pinning on Microsoft endpoints rejects re-signed traffic.
    remediation_steps:
      - title: Bypass SSL inspection
        steps:
          - Add *.manage.microsoft.com to the SSL inspection bypass list
          - Add *.microsoftonline.com to the bypass list
          - Add *.windows.net to the bypass list
    tags: [network, ssl]

  - rule_id: ANALYZE-ID-001
    title: Azure AD Join Timeout
    description: Detects a device preparation phase that took too long to join Azure AD.
    severity: high
    category: identity
    base_confidence: 60
    conditions:
      - signal: identity_phase_stalled
        source: phase_duration
        data_field: espPhase
        operator: equals
        value: DevicePreparation
        required: true
    confidence_factors:
      - signal: long_duration
        condition: phase_duration > 180
        weight: 30
    confidence_threshold: 70
    explanation: >-
      The device spent an unusually long time in device preparation, where the Azure AD
      join happens. This usually points at blocked identity endpoints or a Conditional
      Access policy.
    remediation_steps:
      - title: Verify connectivity
        steps:
          - Check connectivity to login.microsoftonline.com
          - Check connectivity to enterpriseregistration.windows.net
      - title: Check Conditional Access
        steps:
          - Review CA policies that may block device enrollment
          - Check for MFA requirements during join
    tags: [identity, timeout]

  - rule_id: ANALYZE-ID-002
    title: Device Limit Reached
    description: Detects enrollment rejected because the user owns too many devices.
    severity: high
    category: identity
    base_confidence: 80
    conditions:
      - signal: device_limit
        source: event_type
        event_type: error_detected
        data_field: message
        operator: regex
        value: \"device limit|maximum.*device|MaximumDevicesPerUser\"
        required: true
    explanation: The enrolling user has reached the per-user device limit configured in Azure AD.
    remediation_steps:
      - title: Increase device limit
        steps:
          - Azure Portal > Azure AD > Devices > Device settings
          - Increase 'Maximum number of devices per user'
      - title: Remove stale devices
        steps:
          - Remove old or unused device registrations for the user
    tags: [identity]

  - rule_id: ANALYZE-APP-002
    title: MSI Installation Error
    description: Detects Windows Installer error codes on failed app installs.
    severity: high
    category: apps
    base_confidence: 80
    conditions:
      - signal: msi_error
        source: event_type
        event_type: app_install_failed
        data_field: errorCode
        operator: regex
        value: \"^16[0-9]\x7b2\x7d$|^0x80070[0-9a-f]+$\"
        required: true
    explanation: An MSI-based app failed with a Windows Installer error code.
    remediation_steps:
      - title: Investigate MSI error
        steps:
          - Collect the MSI verbose log from the device
          - Look up the specific error code
          - Verify the app's prerequisites are met
    tags: [apps, msi]

  - rule_id: ANALYZE-APP-004
    title: Insufficient Disk Space
    description: Detects installs failing because the disk is full.
    severity: critical
    category: apps
    base_confidence: 90
    conditions:
      - signal: disk_space
        source: event_type
        event_type: error_detected
        data_field: message
        operator: regex
        value: \"disk space|storage.*full|not enough space|0x80070070\"
        required: true
    explanation: The device ran out of disk space while installing content.
    remediation_steps:
      - title: Free disk space
        steps:
          - Check the device disk size meets minimum requirements
          - Clean up temporary files
    tags: [apps, disk-space]

  - rule_id: ANALYZE-APP-006
    title: Reboot Required Loop
    description: Detects the same install being started over and over across reboots.
    severity: high
    category: apps
    base_confidence: 70
    conditions:
      - signal: reboot_loop
        source: event_count
        event_type: app_install_start
        operator: count_gte
        value: \"3\"
        required: true
    explanation: >-
      App installs were started three or more times, which usually means an app keeps
      requesting a reboot that ESP never honours.
    remediation_steps:
      - title: Fix reboot handling
        steps:
          - Check that the app's return code mapping includes reboot codes
          - Verify ESP reboot behavior settings
    tags: [apps, reboot]

  - rule_id: ANALYZE-APP-007
    title: Slow App Installation
    description: Measures app installs from start to completion.
    severity: warning
    category: apps
    base_confidence: 50
    conditions:
      - signal: slow_install
        source: app_install_duration
        operator: gt
        value: \"900\"
        required: true
    confidence_factors:
      - signal: very_slow_install
        condition: phase_duration > 1800
        weight: 20
    explanation: >-
      An app took more than fifteen minutes from start to completion. Large content or a
      throttled download path keeps ESP waiting.
    remediation_steps:
      - title: Speed up content delivery
        steps:
          - Check bandwidth to *.delivery.mp.microsoft.com
          - Consider Delivery Optimization peer caching
    tags: [apps, performance]

  - rule_id: ANALYZE-ESP-001
    title: ESP Blocking App Timeout
    description: Detects a device setup phase held open by blocking apps.
    severity: high
    category: esp
    base_confidence: 40
    conditions:
      - signal: esp_stalled
        source: phase_duration
        data_field: espPhase
        operator: equals
        value: DeviceSetup
        required: true
    confidence_factors:
      - signal: long_esp
        condition: phase_duration > 1800
        weight: 30
    confidence_threshold: 60
    explanation: >-
      Device setup ran for more than thirty minutes. A blocking app that cannot download
      or install keeps the Enrollment Status Page from completing.
    remediation_steps:
      - title: Investigate blocking app
        steps:
          - Identify which app is blocking from the ESP events
          - Verify app content is downloadable
          - Consider reducing the number of blocking apps
    tags: [esp, timeout]

  - rule_id: ANALYZE-DEV-001
    title: TPM Not Ready
    description: Detects TPM attestation failures.
    severity: critical
    category: device
    base_confidence: 80
    conditions:
      - signal: tpm_error
        source: event_type
        event_type: error_detected
        data_field: message
        operator: regex
        value: \"TPM|Trusted Platform Module|0x80284001|0x80290300\"
        required: true
    explanation: The TPM is not ready or failed attestation, which blocks self-deploying and pre-provisioned enrollments.
    remediation_steps:
      - title: Fix TPM
        steps:
          - Check BIOS/UEFI settings for TPM enablement
          - Update TPM firmware if available
    tags: [device, tpm]

  - rule_id: ANALYZE-DEV-003
    title: Secure Boot Disabled
    description: Detects devices booting without Secure Boot.
    severity: warning
    category: device
    base_confidence: 60
    conditions:
      - signal: secureboot_disabled
        source: event_type
        event_type: gather_secureboot_status
        data_field: UEFISecureBootEnabled
        operator: equals
        value: \"0\"
        required: true
    explanation: Secure Boot is disabled, so compliance policies requiring it will fail.
    remediation_steps:
      - title: Enable Secure Boot
        steps:
          - Enter BIOS/UEFI settings and enable Secure Boot
          - Ensure the device boots in UEFI mode, not Legacy/CSM
    tags: [device]

  - rule_id: ANALYZE-CORR-001
    title: Proxy Authentication Blocking Enrollment
    description: Correlates a configured proxy with proxy authentication errors and a failed enrollment.
    severity: critical
    category: network
    trigger: correlation
    base_confidence: 60
    conditions:
      - signal: proxy_configured
        source: event_type
        event_type: gather_proxy_settings
        data_field: ProxyEnable
        operator: equals
        value: \"1\"
        required: true
      - signal: auth_error
        source: event_type
        event_type: error_detected
        data_field: message
        operator: regex
        value: \"407|proxy.*auth|ProxyAuthenticationRequired\"
        required: true
      - signal: enrollment_failed
        source: event_type
        event_type: enrollment_failed
        operator: exists
    confidence_factors:
      - signal: enrollment_failed
        condition: exists
        weight: 20
      - signal: long_network_phase
        condition: phase_duration > 180
        weight: 15
    confidence_threshold: 50
    explanation: >-
      A proxy is configured on the device and enrollment traffic was rejected with proxy
      authentication errors. The proxy is the root cause of the failure.
    remediation_steps:
      - title: Configure proxy bypass for Microsoft endpoints
        steps:
          - Add *.manage.microsoft.com and *.microsoftonline.com to the bypass list
          - Add enterpriseregistration.windows.net to the bypass list
    related_docs:
      - title: Autopilot networking requirements
        url: https://learn.microsoft.com/en-us/mem/autopilot/networking-requirements
    tags: [correlation, network, proxy, root-cause]

  - rule_id: ANALYZE-CORR-004
    title: Disk Space Exhaustion Caused Installation Failure
    description: Correlates low free disk space with disk-related install errors.
    severity: critical
    category: apps
    trigger: correlation
    base_confidence: 65
    conditions:
      - signal: low_disk
        source: event_type
        event_type: performance_snapshot
        data_field: disk_free_gb
        operator: lt
        value: \"5\"
        required: true
      - signal: install_error
        source: event_type
        event_type: error_detected
        data_field: message
        operator: regex
        value: \"disk space|storage|not enough space|0x80070070|0x80070008|ERROR_DISK_FULL\"
        required: true
      - signal: app_failed
        source: event_type
        event_type: app_install_failed
    confidence_factors:
      - signal: app_failed
        condition: exists
        weight: 20
    confidence_threshold: 50
    explanation: >-
      Free disk space dropped below 5 GB and errors carry disk-full codes. The device
      ran out of storage during app installation.
    remediation_steps:
      - title: Reduce disk consumption during enrollment
        steps:
          - Review the total size of apps deployed during ESP
          - Move non-critical apps to post-ESP deployment
    tags: [correlation, apps, disk-space, root-cause]

  - rule_id: ANALYZE-CORR-006
    title: Download Error Followed by App Failure
    description: Joins a download error with the failed install of the same app.
    severity: high
    category: apps
    trigger: correlation
    base_confidence: 70
    conditions:
      - signal: download_then_failure
        source: event_correlation
        event_type: error_detected
        event_a_filter_field: message
        event_a_filter_operator: regex
        event_a_filter_value: \"download|0x80072ee7|CDN\"
        correlate_event_type: app_install_failed
        join_field: appId
        time_window_seconds: 600
        required: true
    explanation: >-
      A content download error was followed within ten minutes by the install failure
      of the same app, pointing at the download path rather than the installer.
    remediation_steps:
      - title: Check the content download path
        steps:
          - Verify the proxy does not block *.delivery.mp.microsoft.com
          - Check Delivery Optimization configuration
    tags: [correlation, apps, network, download]
"

/-- The built-in library as the origin of rules. -/
def builtinOrigin (defaultThreshold : Option Int) : Origin :=
  ⟨"built-in rule library", true, defaultThreshold⟩

/-- The rules of the built-in library. -/
def builtinDocument (defaultThreshold : Option Int) : Except DocumentError Document :=
  (builtinOrigin defaultThreshold).parse builtinText

end EnrollmentDiagnosis.RuleBook
